import AgentSandbox.E2b.Backend
import AgentSandbox.Proofs.Exchange.Requests
import AgentSandbox.Proofs.Url.Reader

/-!
# The addresses of instances

Below the URL of a service there is the URL of all its sandboxes, and below that the URL of each.  An
id is one segment of the path, from which the id can be read back (`leads_address`), and two ids have
one URL only if they differ in nothing that a URL holds (`address_inj`).  An id that is read as a full
stop or two leads elsewhere, which `Leads` says case by case.
-/

namespace AgentSandbox.E2bBackend

open Url

/-- The path to which the id of an instance leads, `stem` being that of the service. -/
structure Leads (stem : List Char) (id : String) (path : List Char) : Prop where
  /-- The id is one segment behind that of all sandboxes. -/
  segment : held id ≠ "." → held id ≠ ".." → ∃ segment,
    path = stem ++ "/sandboxes/".toList ++ segment ∧ IsSegment segment ∧
      unescape segment = Utf8.encode (held id)
  /-- One or two full stops lead to all sandboxes. -/
  dots : id = "." ∨ id = ".." → path = stem ++ "/sandboxes".toList
  /-- A full stop among tabs and line breaks leads to the empty segment. -/
  heldDot : id ≠ "." → held id = "." → path = stem ++ "/sandboxes/".toList
  /-- Two full stops among them lead out of the sandboxes. -/
  heldDots : id ≠ ".." → held id = ".." → path = stem ++ "/".toList

/-- The URL of an instance below that of the service. -/
def address (u : Url) (id : String) : Url := (u.popEmpty.push "sandboxes").push id

variable {b : E2bBackend} {u : Url}

theorem sandboxesUrl_eq (hparse : Url.parse b.config.apiBaseUrl = .ok u)
    (hsegments : u.hasSegments = true) (id : String) :
    b.sandboxesUrl (some id) = .ok (address u id) := by
  unfold sandboxesUrl
  simp only [hparse, hsegments, if_true, Option.map_some, Option.getD_some]
  rfl

/-- Nothing but the path of the URL changes. -/
theorem address_eq (u : Url) (id : String) : address u id = { u with path := (address u id).path } :=
  rfl

theorem exists_path_of_hasSegments (h : u.hasSegments = true) : ∃ items, u.path = .segments items := by
  unfold hasSegments at h
  split at h
  · exact ⟨_, ‹_›⟩
  · cases h

/-- The segment of all sandboxes, behind those of the service. -/
def below (base : List (List Char)) : List (List Char) := base ++ ["sandboxes".toList]

theorem below_ne (base : List (List Char)) : below base ≠ [[]] := by
  intro h
  rcases List.append_eq_singleton_iff.1 h with ⟨-, h⟩ | ⟨-, h⟩
  · cases h
  · cases h

theorem shorten_below (kind : Kind) (base : List (List Char)) :
    Path.shorten kind (below base) = base := by
  unfold Path.shorten
  split
  · next s h =>
    rcases List.append_eq_singleton_iff.1 h with ⟨rfl, h⟩ | ⟨-, h⟩
    · obtain rfl := List.singleton_inj.1 h
      rfl
    · cases h
  · exact List.dropLast_concat

section

variable (hplain : u.path.IsPlain) (hsegments : u.hasSegments = true)
include hplain hsegments

/-- An id is added behind the segment of all sandboxes. -/
theorem exists_path_address : ∃ base, (Path.segments base).text = u.path.stem ∧
    ∀ id, (address u id).path = (Path.segments (below base)).push u.kind id.toList := by
  obtain ⟨items, hitems⟩ := exists_path_of_hasSegments hsegments
  rw [hitems] at hplain
  obtain ⟨base, hne, htext, hpush⟩ := Path.exists_stem hplain
  have hsegment (kind : Kind) : escape (segmentSet kind.hasBackslash) (held "sandboxes").toList =
      "sandboxes".toList := by
    cases kind <;> decide
  have hbelow : u.path.popEmpty.push u.kind "sandboxes".toList = .segments (below base) := by
    rw [hitems, hpush _ _ (by decide) (by decide),
      Path.push_of_ne (by decide) (by decide) hne (.inr (by rw [hsegment]; rfl)), hsegment]
    rfl
  exact ⟨base, by rw [htext, hitems], fun id => congrArg (·.push u.kind id.toList) hbelow⟩

/-- Each id leads where `Leads` says. -/
theorem leads_address (id : String) : Leads u.path.stem id (address u id).path.text := by
  obtain ⟨base, hstem, hpath⟩ := exists_path_address hplain hsegments
  have hbelow : (Path.segments (below base)).text = u.path.stem ++ "/sandboxes".toList := by
    rw [below, Path.text_concat, hstem]
    rfl
  rw [hpath]
  constructor
  case segment =>
    intro hdot hdots
    refine ⟨escape (segmentSet u.kind.hasBackslash) (held id).toList, ?_,
      isSegment_escape _ hdot hdots, unescape_escape (by cases u.kind <;> rfl) _⟩
    rw [Path.push_of_ne hdot hdots (below_ne base) (.inl (by simp [below])), Path.text_concat, hbelow]
    simp
  case dots =>
    intro h
    rw [Path.push_of_dots h, hbelow]
  case heldDot =>
    intro hid h
    rw [Path.push_of_held_dot hid h (below_ne base), Path.text_concat, hbelow]
    simp
  case heldDots =>
    intro hid h
    rw [Path.push_of_held_dots hid h (below_ne base), shorten_below, Path.text_concat, hstem]
    rfl

/-- Ids that are segments have one URL only if they differ in nothing that a URL holds. -/
theorem address_inj {id id' : String} (hdot : held id ≠ ".") (hdots : held id ≠ "..")
    (hdot' : held id' ≠ ".") (hdots' : held id' ≠ "..") :
    address u id = address u id' ↔ held id = held id' := by
  obtain ⟨base, -, hpath⟩ := exists_path_address hplain hsegments
  have hsegment {id : String} (hdot : held id ≠ ".") (hdots : held id ≠ "..") :
      (address u id).path =
        .segments (below base ++ [escape (segmentSet u.kind.hasBackslash) (held id).toList]) := by
    rw [hpath, Path.push_of_ne hdot hdots (below_ne base) (.inl (by simp [below]))]
  constructor
  · intro h
    have hescape := congrArg Url.path h
    rw [hsegment hdot hdots, hsegment hdot' hdots', Path.segments.injEq,
      List.append_right_inj, List.singleton_inj] at hescape
    exact escape_inj (by cases u.kind <;> rfl) hescape
  · intro h
    rw [address_eq u id, address_eq u id', hsegment hdot hdots, hsegment hdot' hdots', h]

end

/-! ## Deleting an instance -/

/-- The request that deletes the instance at a URL. -/
def Deletes (url : Url) (r : Request) : Prop := r.method = .delete ∧ r.url = url

section

variable (hparse : Url.parse b.config.apiBaseUrl = .ok u) (hsegments : u.hasSegments = true)
  (id : String)
include hparse hsegments

/-- A deletion sends nothing but the request that deletes the instance. -/
theorem sends_deleteInstance : (b.deleteInstance id).Sends (Deletes (address u id)) := by
  refine .bind ?_ fun _ => .token _ fun _ => .done _
  rw [run, sandboxesUrl_eq hparse hsegments]
  exact .send ⟨rfl, rfl⟩ fun _ => .done _

theorem begins_deleteInstance : (b.deleteInstance id).Begins (Deletes (address u id)) := by
  refine .bind ?_
  rw [run, sandboxesUrl_eq hparse hsegments]
  exact .send ⟨rfl, rfl⟩ fun _ => ⟨_, rfl⟩

end

end AgentSandbox.E2bBackend
