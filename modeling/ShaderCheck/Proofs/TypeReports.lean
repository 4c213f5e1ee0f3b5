import ShaderCheck.Proofs.References

/-!
How often a written type is reported. A type is resolved from the inside out, and whatever is wrong with it gives the
invalid type. What is made of the invalid type is invalid as well, but nobody is told again. So a type that stands for
nothing is reported once, however deep the mistake is nested. Only an alias of the invalid type passes without a report:
it was reported where the alias was declared.
-/

namespace ShaderCheck

open Noted

namespace TypeRef

def formerNames : List String :=
  ["vec2", "vec3", "vec4", "mat2x2", "mat2x3", "mat2x4", "mat3x2", "mat3x3", "mat3x4", "mat4x2", "mat4x3", "mat4x4",
    "ptr"]

/-- Where one gets from a written type by following the single arguments of vectors, matrices and pointers. -/
def innermost : TypeRef → TypeRef
  | .mk range name [argument] => if name ∈ formerNames then innermost argument else .mk range name [argument]
  | .mk range name arguments => .mk range name arguments
termination_by structural ref => ref

/-- One gets to a bare name that is not of the language, and that is registered as an alias of the invalid type. -/
def LeadsToInvalid (symbols : Symbols) (ref : TypeRef) : Prop :=
  ref.innermost.arguments = [] ∧ ref.innermost.name ∉ languageNames ∧
    symbols.alias? ref.innermost.name = some .invalid

instance (symbols : Symbols) (ref : TypeRef) : Decidable (ref.LeadsToInvalid symbols) :=
  inferInstanceAs (Decidable (_ ∧ _ ∧ _))

end TypeRef

/-- A step that gives a type reports the invalid one, once, unless it is known already. It reports nothing else. -/
structure Noted.ReportsOnce (step : Noted Ty) (known : Prop) : Prop where
  silent : step.value ≠ .invalid → step.notes.incidents = []
  fresh : step.value = .invalid → ¬ known → step.notes.incidents.length = 1
  stale : known → step.value = .invalid ∧ step.notes.incidents = []

namespace Noted.ReportsOnce

variable {step : Noted Ty} {known : Prop}

theorem of_valid {ty : Ty} (valid : ty ≠ .invalid) (unknown : ¬ known) : ReportsOnce (pure ty) known where
  silent _ := rfl
  fresh invalid := absurd invalid valid
  stale holds := absurd holds unknown

theorem of_report (node : NodeRef) (cause : Cause) (unknown : ¬ known) :
    ReportsOnce (report node cause >>= fun _ => pure .invalid) known where
  silent valid := absurd rfl valid
  fresh _ _ := rfl
  stale holds := absurd holds unknown

/-- The invalid type is passed on, and any other is judged by itself. -/
theorem bind (first : step.ReportsOnce known) {next : Ty → Noted Ty} (passes : next .invalid = pure .invalid)
    (judges : ∀ ty, ty ≠ .invalid → (next ty).ReportsOnce False) : (step >>= next).ReportsOnce known := by
  by_cases invalid : step.value = .invalid
  · have value : (step >>= next).value = .invalid := by rw [value_bind, invalid, passes, value_pure]
    have notes : (step >>= next).notes = step.notes := by
      rw [notes_bind, invalid, passes, notes_pure, Notes.append_empty]
    exact ⟨fun valid => absurd value valid, fun _ unknown => notes ▸ first.fresh invalid unknown,
      fun holds => ⟨value, notes ▸ (first.stale holds).2⟩⟩
  · have unknown : ¬ known := fun holds => invalid (first.stale holds).1
    have incidents : (step >>= next).notes.incidents = (next step.value).notes.incidents := by
      rw [notes_bind, Notes.incidents_append, first.silent invalid, List.nil_append]
    have second := judges _ invalid
    exact ⟨fun valid => incidents ▸ second.silent valid, fun other _ => incidents ▸ second.fresh other id,
      fun holds => absurd holds unknown⟩

end Noted.ReportsOnce

/-- Enums and structs are never the invalid type. -/
theorem Symbols.type?_eq_invalid_iff (symbols : Symbols) (name : String) :
    symbols.type? name = some .invalid ↔ symbols.alias? name = some .invalid := by
  unfold Symbols.type?
  cases symbols.alias? name with
  | some ty => simp
  | none =>
    cases symbols.enumeration? name with
    | some enumeration => simp [Enumeration.ty]
    | none => simp [Layout.ty]

namespace TypeHead

def isFormer : TypeHead → Bool
  | .plain _ => false
  | .former _ => true

theorem mem_formerNames_iff (name : String) :
    name ∈ TypeRef.formerNames ↔ (ofName? name).any isFormer = true := by
  constructor
  · have takes : ∀ name ∈ TypeRef.formerNames, (ofName? name).any isFormer = true := by decide
    exact takes name
  · intro takes
    have known : (ofName? name).isSome = true := by
      cases found : ofName? name with
      | none => simp [found] at takes
      | some => rfl
    have listed : ∀ name ∈ TypeRef.languageNames, (ofName? name).any isFormer = true → name ∈ TypeRef.formerNames := by
      decide
    exact listed name ((ofName?_isSome_iff name).mp known) takes

end TypeHead

namespace TypeRef

variable {symbols : Symbols} {range : Span} {name : String} {arguments : List TypeRef}

theorem innermost_of_former (former : name ∈ formerNames) (argument : TypeRef) :
    (TypeRef.mk range name [argument]).innermost = argument.innermost := by
  rw [innermost, if_pos former]

/-- One gets no further than to a written type that is no former with one argument. -/
theorem innermost_eq_self (ends : name ∉ formerNames ∨ ∀ argument, arguments ≠ [argument]) :
    (TypeRef.mk range name arguments).innermost = .mk range name arguments := by
  unfold innermost
  split
  case h_1 argument same =>
    cases same
    exact if_neg (ends.resolve_right fun other => other argument rfl)
  case h_2 same => rw [same]

theorem not_leadsToInvalid_of_mem (known : name ∈ languageNames)
    (ends : name ∉ formerNames ∨ ∀ argument, arguments ≠ [argument]) :
    ¬ (TypeRef.mk range name arguments).LeadsToInvalid symbols := by
  unfold LeadsToInvalid
  rw [innermost_eq_self ends]
  exact fun leads => leads.2.1 known

theorem resolveName_reportsOnce (foreign : name ∉ languageNames) (node : NodeRef) :
    ReportsOnce (resolveName symbols node name arguments.isEmpty)
      ((TypeRef.mk range name arguments).LeadsToInvalid symbols) := by
  have ends : name ∉ formerNames := by
    have language : ∀ name ∈ formerNames, name ∈ languageNames := by decide
    exact fun former => foreign (language name former)
  have leads : (TypeRef.mk range name arguments).LeadsToInvalid symbols ↔
      arguments = [] ∧ symbols.type? name = some .invalid := by
    unfold LeadsToInvalid
    rw [innermost_eq_self (.inl ends), symbols.type?_eq_invalid_iff]
    exact ⟨fun leads => ⟨leads.1, leads.2.2⟩, fun leads => ⟨leads.1, foreign, leads.2⟩⟩
  rw [leads]
  unfold resolveName
  cases found : symbols.type? name with
  | none => exact .of_report _ _ nofun
  | some ty =>
    cases arguments with
    | cons => exact .of_report _ _ nofun
    | nil =>
      refine ⟨fun _ => rfl, fun invalid fresh => ?_, fun known => ⟨Option.some.inj known.2, rfl⟩⟩
      cases invalid
      exact absurd ⟨rfl, rfl⟩ fresh

theorem apply_reportsOnce (node : NodeRef) (former : TypeFormer) {argument : Ty} (valid : argument ≠ .invalid) :
    ReportsOnce (former.apply node argument) False := by
  unfold TypeFormer.apply
  split
  case h_1 => exact absurd rfl valid
  case h_2 | h_3 =>
    split
    · exact .of_valid nofun id
    · exact .of_report _ _ id
  case h_4 => exact .of_valid nofun id

/-- A written type is reported once if it stands for nothing, unless it leads to an alias of the invalid type. -/
theorem resolve_reportsOnce (symbols : Symbols) :
    (ref : TypeRef) → ReportsOnce (ref.resolve symbols) (ref.LeadsToInvalid symbols)
  | .mk range name arguments => by
    have known := TypeHead.ofName?_isSome_iff name
    have former := TypeHead.mem_formerNames_iff name
    rw [resolve]
    cases head : TypeHead.ofName? name with
    | none =>
      rw [head] at known
      exact resolveName_reportsOnce (by simpa using known.symm) _
    | some head' =>
      rw [head] at known former
      have listed : name ∈ languageNames := known.mp rfl
      cases head' with
      | plain ty =>
        have unknown : ¬ (TypeRef.mk range name arguments).LeadsToInvalid symbols :=
          not_leadsToInvalid_of_mem listed (.inl fun takes => Bool.noConfusion (former.mp takes))
        cases arguments with
        | nil => exact .of_valid (plain_whole head).ne_invalid unknown
        | cons => exact .of_report _ _ unknown
      | former shape =>
        obtain _ | ⟨argument, _ | _⟩ := arguments
        · exact .of_report _ _ (not_leadsToInvalid_of_mem listed (.inr (by simp)))
        -- A former leads where its argument does, and says nothing more about an argument that is invalid.
        · have inner := resolve_reportsOnce symbols argument
          have same : (TypeRef.mk range name [argument]).LeadsToInvalid symbols ↔ argument.LeadsToInvalid symbols := by
            unfold LeadsToInvalid
            rw [innermost_of_former (former.mpr rfl)]
          rw [same]
          exact inner.bind (by cases shape <;> rfl) fun ty valid => apply_reportsOnce _ shape valid
        · exact .of_report _ _ (not_leadsToInvalid_of_mem listed (.inr (by simp)))
termination_by structural ref => ref

/-- Resolving a written type always gives a type. It adds at most one incident to those of a context: none if the type
is valid, and one if it is invalid. Only a type that leads to an alias of the invalid type is invalid without one. -/
theorem resolve_reports_once (context : Context) (ref : TypeRef) :
    ∃ ty after incidents, (Analysis.note fun env => ref.resolve env.symbols).run context = (.ok ty, after)
      ∧ after.incidents = context.incidents ++ incidents ∧ incidents.length ≤ 1
      ∧ (ty ≠ .invalid → incidents = [])
      ∧ (ty = .invalid → ¬ ref.LeadsToInvalid context.env.symbols → incidents.length = 1)
      ∧ (ref.LeadsToInvalid context.env.symbols → ty = .invalid ∧ incidents = []) := by
  obtain ⟨silent, fresh, stale⟩ := ref.resolve_reportsOnce context.env.symbols
  refine ⟨_, _, _, rfl, rfl, ?_, silent, fresh, stale⟩
  by_cases valid : (ref.resolve context.env.symbols).value ≠ .invalid
  · simp [silent valid]
  · by_cases leads : ref.LeadsToInvalid context.env.symbols
    · simp [(stale leads).2]
    · exact Nat.le_of_eq (fresh (not_not.mp valid) leads)

-- A pointer to vectors of an alias that stands for nothing passes; one to vectors of an unknown name is reported once.
example :
    let symbols : Symbols := { aliases := [("Lost", .invalid)] }
    let pointer (name : String) : TypeRef := .mk .origin "ptr" [.mk .origin "vec2" [.mk .origin name []]]
    (pointer "Lost").LeadsToInvalid symbols ∧ ((pointer "Lost").resolve symbols).notes.incidents = [] ∧
      ((pointer "Missing").resolve symbols).notes.incidents.length = 1 := by
  decide

end TypeRef

end ShaderCheck
