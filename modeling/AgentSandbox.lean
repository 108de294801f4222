import AgentSandbox.Backend
import AgentSandbox.Endpoint
import AgentSandbox.Execution.Decoding
import AgentSandbox.Error
import AgentSandbox.Execution.Form
import AgentSandbox.Json.Printer
import AgentSandbox.Model.Form
import AgentSandbox.Mount.Help
import AgentSandbox.Mount.Option
import AgentSandbox.Mount.Spec
import AgentSandbox.TokenCache
import AgentSandbox.Signature
import AgentSandbox.Text.Quoted
import AgentSandbox.Toml.Reader
import AgentSandbox.Config.Loading
import AgentSandbox.Diagnostic
import AgentSandbox.Model.Entry
import AgentSandbox.Url.Reader
import AgentSandbox.Exchange.World
import AgentSandbox.E2b.Backend
import AgentSandbox.Cloud.Operations
import AgentSandbox.Client.Session
import AgentSandbox.Proofs.Execution.Decoding
import AgentSandbox.Proofs.Execution.RoundTrip
import AgentSandbox.Proofs.Execution.Isolation
import AgentSandbox.Proofs.Mount.Rearranging
import AgentSandbox.Proofs.Mount.Effective
import AgentSandbox.Proofs.Exchange.Action
import AgentSandbox.Proofs.E2b.Tokens
import AgentSandbox.Proofs.Cloud.Tokens
import AgentSandbox.Proofs.Client.Session
import AgentSandbox.Proofs.Client.Tokens
import AgentSandbox.Proofs.Client.FreshTokens
import AgentSandbox.Proofs.Client.Cancellation
import AgentSandbox.Proofs.Client.Interference
import AgentSandbox.Proofs.Client.Deadline
import AgentSandbox.Proofs.Client.Signing
import AgentSandbox.Proofs.Client.Reading
import AgentSandbox.Proofs.Forms
import AgentSandbox.Proofs.Client.Classification
import AgentSandbox.Proofs.Client.Creation
import AgentSandbox.Proofs.Client.Listening
import AgentSandbox.Proofs.Client.Reporting
import AgentSandbox.Proofs.Client.Addressing
import AgentSandbox.Proofs.Client.Resource
import AgentSandbox.Proofs.Client.Listing
import AgentSandbox.Proofs.Client.Lookup
import AgentSandbox.Proofs.Mount.Containment
import AgentSandbox.Proofs.Mount.Reparsing
import AgentSandbox.Proofs.Client.Updating
import AgentSandbox.Proofs.Client.Patience
import AgentSandbox.Proofs.Client.Executing
import AgentSandbox.Proofs.Config.Layering
import AgentSandbox.Proofs.TokenCache
import AgentSandbox.Proofs.Execution.Padding
import AgentSandbox.Proofs.Execution.Buffering
import AgentSandbox.Proofs.Signature
import AgentSandbox.Proofs.Client.Hosts
import AgentSandbox.Proofs.Error
