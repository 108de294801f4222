import AgentSandbox.Config.Loading
import AgentSandbox.Proofs.Text.Blank

/-!
# Variables of an environment

A variable that is set but empty makes no difference to a configuration
(`Config.applyEnvironment_withoutEmpty`), with one exception: the variable that chooses the internal
network says no when it is empty, also where the file says yes (`Config.load_empty_internal`).
-/

namespace AgentSandbox

namespace Environment

/-- The environment without the variables whose text is empty. -/
def withoutEmpty (env : Environment) : Environment :=
  env.filter fun e => env.get? e.1 ≠ some ""

theorem get?_filter (p : String → Bool) (env : Environment) (name : String) :
    Environment.get? (env.filter fun e => p e.1) name = if p name then env.get? name else none := by
  induction env with
  | nil => exact (ite_self none).symm
  | cons e env ih =>
    unfold get? at ih ⊢
    rw [List.filter_cons, lookup?]
    by_cases hname : name = e.1
    · subst hname
      by_cases hp : p e.1 = true
      · rw [if_pos hp, if_pos hp, lookup?, if_pos rfl, if_pos rfl]
      · rw [if_neg hp, ih, if_neg hp, if_neg hp]
    · rw [if_neg hname, ← ih]
      split
      · rw [lookup?, if_neg hname]
      · rfl

theorem get?_withoutEmpty (env : Environment) (name : String) :
    env.withoutEmpty.get? name = if env.get? name = some "" then none else env.get? name := by
  have h := get?_filter (fun name => env.get? name ≠ some "") env name
  rw [withoutEmpty, h]
  by_cases hempty : env.get? name = some ""
  · simp [hempty]
  · simp [hempty]

/-- A variable that is empty overrides nothing. -/
theorem override_withoutEmpty (env : Environment) (name old : String) :
    env.withoutEmpty.override name old = env.override name old := by
  unfold override
  rw [get?_withoutEmpty]
  split
  · next hempty =>
    rw [hempty]
    rfl
  · rfl

end Environment

theorem saysYes_empty : saysYes "" = false := by decide

namespace Config

/-- The configuration with another choice of the internal network. -/
def withInternal (internal : Bool) (c : Config) : Config :=
  { c with cloud := { c.cloud with internal := internal } }

/-- Variables that are empty make no difference but to the choice of the internal network. -/
theorem applyEnvironment_eq_withInternal (c : Config) (env : Environment) :
    c.applyEnvironment env = (c.applyEnvironment env.withoutEmpty).withInternal
      (c.applyEnvironment env).cloud.internal := by
  simp only [withInternal, applyEnvironment, Environment.override_withoutEmpty]

theorem internal_applyEnvironment_of_empty (c : Config) {env : Environment}
    (h : env.get? "AGS_CLOUD_INTERNAL" = some "") :
    (c.applyEnvironment env).cloud.internal = false ∧
      (c.applyEnvironment env.withoutEmpty).cloud.internal = c.cloud.internal := by
  simp only [applyEnvironment, Environment.get?_withoutEmpty, h, Option.map_some, Option.getD_some,
    saysYes_empty, if_true, Option.map_none, Option.getD_none, and_self]

theorem internal_applyEnvironment_of_ne (c : Config) {env : Environment}
    (h : env.get? "AGS_CLOUD_INTERNAL" ≠ some "") :
    (c.applyEnvironment env).cloud.internal =
      (c.applyEnvironment env.withoutEmpty).cloud.internal := by
  simp only [applyEnvironment, Environment.get?_withoutEmpty, h, if_false]

/-- Without the variables that are empty an environment makes the same configuration, but for the
choice of the internal network: the variable for it says no when it is empty.  So it makes the same
configuration exactly if that variable is not empty or the network was not chosen before. -/
theorem applyEnvironment_withoutEmpty (c : Config) (env : Environment) :
    let d := c.applyEnvironment env.withoutEmpty
    c.applyEnvironment env =
        d.withInternal (d.cloud.internal && env.get? "AGS_CLOUD_INTERNAL" ≠ some "") ∧
      (c.applyEnvironment env = d ↔
        (env.get? "AGS_CLOUD_INTERNAL" = some "" → c.cloud.internal = false)) := by
  intro d
  have hsame : c.applyEnvironment env = d.withInternal (c.applyEnvironment env).cloud.internal :=
    c.applyEnvironment_eq_withInternal env
  by_cases hempty : env.get? "AGS_CLOUD_INTERNAL" = some ""
  · obtain ⟨hno, hkept⟩ := c.internal_applyEnvironment_of_empty hempty
    have hkept : d.cloud.internal = c.cloud.internal := hkept
    rw [hno] at hsame
    refine ⟨?_, fun h _ => ?_, fun h => ?_⟩
    · simpa only [hempty, ne_eq, not_true_eq_false, decide_false, Bool.and_false] using hsame
    · rw [← hkept, ← h, hno]
    · rw [hsame, ← h hempty, ← hkept]
      rfl
  · have hinternal : (c.applyEnvironment env).cloud.internal = d.cloud.internal :=
      c.internal_applyEnvironment_of_ne hempty
    rw [hinternal] at hsame
    refine ⟨?_, fun _ h => absurd h hempty, fun _ => hsame⟩
    simpa only [hempty, ne_eq, not_false_eq_true, decide_true, Bool.and_true] using hsame

/-- A file chooses the internal network and the variable for it is set but empty: the choice is lost,
which it is not if the variable is not set. -/
theorem load_empty_internal :
    let file := some (Utf8.encode "[cloud]\ninternal = true")
    let env : Environment := [("AGS_CLOUD_INTERNAL", "")]
    env.withoutEmpty = [] ∧
      (load file env.withoutEmpty).toOption.map (·.cloud.internal) = some true ∧
      (load file env).toOption.map (·.cloud.internal) = some false := by
  decide +kernel

end Config

end AgentSandbox
