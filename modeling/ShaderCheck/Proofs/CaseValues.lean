import ShaderCheck.Proofs.Attribution
import ShaderCheck.Proofs.Tally

/-!
What a switch keeps of the values of its cases. A value counts as a number if it is a constant that casts into one of
the integer formats. The numbers of all cases go into one record, in order: a number that is not in it is added, and one
that is in it is reported. Behind the values of each case stands a block, which may hold a switch with the same values.
It has no part in the record, as each switch starts one of its own.
-/

namespace ShaderCheck

open Noted Attempt

/-- An incident is not about a number that a case has again. -/
def Incident.Apart (incident : Incident) : Prop := ∀ number, incident.cause ≠ .repeatedCase number

open Incident

@[simp] theorem Incident.apart_iff {cause : Cause} {node : Option NodeRef} :
    Apart ⟨cause, node⟩ ↔ ∀ number, cause ≠ .repeatedCase number := .rfl

theorem Incident.OfTerm.apart {incident : Incident} (term : incident.OfTerm) : incident.Apart := by
  intro number repeated
  have cause := term.2
  rw [repeated] at cause
  cases cause

namespace Noted

variable {α β : Type}

@[simp] theorem value_map (f : α → β) (step : Noted α) : (f <$> step).value = f step.value := rfl

@[simp] theorem notes_map (f : α → β) (step : Noted α) : (f <$> step).notes = step.notes :=
  Notes.append_empty step.notes

@[simp] theorem within_map {allowed : Incident → Prop} (f : α → β) (step : Noted α) :
    Within allowed (f <$> step) ↔ Within allowed step := by
  rw [Within, Within, notes_map]

end Noted

def Case.values : Case → List Expr
  | .mk _ values _ => values

def Case.body : Case → Block
  | .mk _ _ body => body

def TypedCase.values : TypedCase → List TypedExpr
  | .mk _ values _ => values

/-- The number of a case value, which only a constant has that casts into one of the two integer formats. -/
def TypedExpr.caseNumber? (e : TypedExpr) : Option Int64 :=
  if (e.facts.ty.castsTo .i32 || e.facts.ty.castsTo .u32) && e.facts.constness = .constant then
    e.facts.value.bind Constant.integer?
  else none

def repetitions : Tally := .ofIncidents fun incident => incident.cause matches .repeatedCase _

theorem repetitions_eq_zero {α : Type} {step : Noted α} (apart : Within Apart step) :
    repetitions.count step.notes = 0 := by
  refine List.countP_eq_zero.mpr fun incident member => ?_
  have other := apart incident member
  cases cause : incident.cause with
  | repeatedCase number => exact absurd cause (other number)
  | _ => simp

/-- What is wrong with an expression is never that a case has its number again. -/
theorem Expr.repetitions_check (env : Env) (e : Expr) : repetitions.count (e.check env).notes = 0 :=
  repetitions_eq_zero ((e.check_ofTerm env).mono fun _ => OfTerm.apart)

/-- What is kept of some numbers and those before them, and how many of them were there already. -/
structure Collects (before numbers values : List Int64) (again : Nat) : Prop where
  kept : values = (before ++ numbers).eraseDups
  counted : again + values.length = before.eraseDups.length + numbers.length

namespace Collects

variable {before numbers more values all : List Int64} {again further : Nat}

theorem nil : Collects before [] before.eraseDups 0 := ⟨by rw [List.append_nil], by simp⟩

theorem append (first : Collects before numbers values again)
    (second : Collects (before ++ numbers) more all further) :
    Collects before (numbers ++ more) all (again + further) := by
  have started := first.counted
  have counted := second.counted
  rw [← first.kept] at counted
  refine ⟨by rw [second.kept, List.append_assoc], ?_⟩
  rw [List.length_append]
  omega

/-- What is kept and how many are not is determined by the numbers. -/
theorem unique (one : Collects before numbers values again) (other : Collects before numbers all further) :
    values = all ∧ again = further := by
  have same : values = all := one.kept.trans other.kept.symm
  have counted := one.counted.trans other.counted.symm
  rw [same] at counted
  exact ⟨same, Nat.add_right_cancel counted⟩

end Collects

namespace Stmt

/-- What one case value comes to: it has no number, or one that is kept already, or a new one. -/
theorem checkCaseValue_cases (seen : List Int64) (node : NodeRef) (e : TypedExpr) :
    let step := checkCaseValue seen node e.facts
    (e.caseNumber? = none ∧ step.value = seen ∧ Within Apart step) ∨
      (∃ number ∈ seen, e.caseNumber? = some number ∧ step.value = seen ∧
        step.notes = (report node (.repeatedCase number)).notes) ∨
      (∃ number ∉ seen, e.caseNumber? = some number ∧ step.value = seen ++ [number] ∧ step.notes = {}) := by
  intro step
  have number : e.caseNumber? = if e.facts.ty.isIntegral && e.facts.constness = .constant then
      e.facts.value.bind Constant.integer? else none := rfl
  rw [number]
  unfold step checkCaseValue
  cases invalid : e.facts.ty.isInvalid with
  | true =>
    -- What is invalid casts into nothing, so it would have no number anyway.
    have strange : e.facts.ty.isIntegral = false := by
      cases ty : e.facts.ty with
      | invalid => rfl
      | _ => simp [ty, Ty.isInvalid] at invalid
    exact .inl (by simp [strange])
  | false =>
    cases integral : e.facts.ty.isIntegral with
    | false => exact .inl (by simp)
    | true =>
      by_cases constant : e.facts.constness = .constant
      · cases folded : e.facts.value.bind Constant.integer? with
        | none => exact .inl (by simp [constant])
        | some number =>
          by_cases known : number ∈ seen
          · exact .inr (.inl ⟨number, known, by simp [constant, known]⟩)
          · exact .inr (.inr ⟨number, known, by simp [constant, known]⟩)
      · exact .inl (by simp [constant])

/-- One case value adds its number to what is kept, or reports it. -/
theorem checkCaseValue_collects (before : List Int64) (node : NodeRef) (e : TypedExpr) :
    Collects before e.caseNumber?.toList (checkCaseValue before.eraseDups node e.facts).value
      (repetitions.count (checkCaseValue before.eraseDups node e.facts).notes) := by
  obtain ⟨none, kept, apart⟩ | ⟨number, known, some, kept, noted⟩ | ⟨number, unknown, some, kept, noted⟩ :=
    checkCaseValue_cases before.eraseDups node e
  · rw [none, kept, repetitions_eq_zero apart]
    exact .nil
  · rw [List.mem_eraseDups] at known
    have once : repetitions.count (report node (.repeatedCase number)).notes = 1 := rfl
    rw [some, kept, noted, once]
    exact ⟨by simp [eraseDups_concat, known], by simp [Nat.add_comm]⟩
  · rw [List.mem_eraseDups] at unknown
    rw [some, kept, noted]
    exact ⟨by simp [eraseDups_concat, unknown], by simp⟩

def caseNumbers (env : Env) (values : List Expr) : List Int64 :=
  values.filterMap fun e => (e.check env).value.caseNumber?

theorem caseNumbers_cons (env : Env) (e : Expr) (rest : List Expr) :
    caseNumbers env (e :: rest) = (e.check env).value.caseNumber?.toList ++ caseNumbers env rest := by
  unfold caseNumbers
  rw [List.filterMap_cons]
  cases (e.check env).value.caseNumber? <;> rfl

theorem caseNumbers_append (env : Env) (values more : List Expr) :
    caseNumbers env (values ++ more) = caseNumbers env values ++ caseNumbers env more := List.filterMap_append

/-- The values of one case are looked at one after the other. -/
theorem checkCaseValues_collects (env : Env) (before : List Int64) (values : List Expr) :
    (checkCaseValues env before.eraseDups values).value.1 = values.map (fun e => (e.check env).value) ∧
      Collects before (caseNumbers env values) (checkCaseValues env before.eraseDups values).value.2
        (repetitions.count (checkCaseValues env before.eraseDups values).notes) := by
  induction values generalizing before with
  | nil => exact ⟨rfl, .nil⟩
  | cons e rest ih =>
    have first := checkCaseValue_collects before (e.check env).value.node (e.check env).value
    obtain ⟨checked, others⟩ := ih (before ++ (e.check env).value.caseNumber?.toList)
    rw [← first.kept] at checked others
    simp only [checkCaseValues, value_bind, value_pure, notes_bind, Noted.notes_pure, Tally.count_append,
      Tally.count_empty, e.repetitions_check env, Nat.zero_add, Nat.add_zero, caseNumbers_cons]
    exact ⟨by rw [checked, List.map_cons], first.append others⟩

def repetitionsIn (env : Env) (blocks : List Block) : Nat :=
  (blocks.map fun body => repetitions.count (Attempt.notes (checkBlock env body))).sum

/-- The cases keep the numbers of all their values, whatever is done in their blocks. -/
theorem checkCases_collects {allowed : Incident → Prop} {env : Env} {cases : List Case} {list : List TypedCase}
    {values : List Int64} {noted : Notes} (before : List Int64)
    (tells : Tells allowed (checkCases env before.eraseDups cases) (list, values) noted) :
    list.flatMap TypedCase.values = (cases.flatMap Case.values).map (fun e => (e.check env).value) ∧
      ∃ again, Collects before (caseNumbers env (cases.flatMap Case.values)) values again ∧
        repetitions.count noted = again + repetitionsIn env (cases.map Case.body) := by
  induction cases generalizing before list noted with
  | nil =>
    simp only [checkCases, tells_pure, Prod.mk.injEq] at tells
    obtain ⟨⟨rfl, rfl⟩, rfl⟩ := tells
    exact ⟨rfl, 0, .nil, rfl⟩
  | cons one rest ih =>
    obtain ⟨range, exprs, body⟩ := one
    simp only [checkCases, tells_bind, tells_pure, tells_lift] at tells
    obtain ⟨_, _, _, ⟨⟨rfl, -⟩, rfl⟩, rfl, block, _, _, ⟨-, rfl⟩, rfl, ⟨others, kept⟩, _, _, behind, rfl, ⟨⟩, rfl⟩ :=
      tells
    obtain ⟨checked, first⟩ := checkCaseValues_collects env before exprs
    -- The block comes between these values and those of the next case, which go on from what is kept of these.
    rw [first.kept] at behind
    obtain ⟨further, again, second, counted⟩ := ih _ behind
    refine ⟨?_, repetitions.count (checkCaseValues env before.eraseDups exprs).notes + again, ?_, ?_⟩
    · simp only [List.flatMap_cons, TypedCase.values, Case.values, List.map_append, checked, further]
    · simp only [List.flatMap_cons, Case.values, caseNumbers_append]
      exact first.append second
    · simp only [Tally.count_append, Tally.count_empty, counted, repetitionsIn, List.map_cons, List.sum_cons, Case.body]
      omega

theorem checkFallback_repetitions {allowed : Incident → Prop} {env : Env} {fallback : Option Block}
    {last : Option TypedBlock} {noted : Notes} (tells : Tells allowed (checkFallback env fallback) last noted) :
    repetitions.count noted = repetitionsIn env fallback.toList := by
  cases fallback with
  | none =>
    simp only [checkFallback, tells_pure] at tells
    rw [tells.2]
    rfl
  | some body =>
    simp only [checkFallback, tells_bind, tells_pure] at tells
    obtain ⟨_, _, _, ⟨-, rfl⟩, rfl, -, rfl⟩ := tells
    simp [repetitionsIn]

/-- What a switch keeps of its case values, and how often it reports one again. -/
structure CaseRecord (inner : Env) (cases : List Case) (fallback : Option Block) (list : List TypedCase)
    (values : List Int64) (again : Nat) (noted : Notes) : Prop where
  /-- The case values were checked inside the switch. -/
  checked : list.flatMap TypedCase.values = (cases.flatMap Case.values).map fun e => (e.check inner).value
  distinct : values.Nodup
  /-- The numbers of those that have one, each where it occurs first. -/
  kept : values = ((list.flatMap TypedCase.values).filterMap TypedExpr.caseNumber?).eraseDups
  /-- All others were reported. -/
  counted : again + values.length = ((list.flatMap TypedCase.values).filterMap TypedExpr.caseNumber?).length
  /-- Besides, each block reports what it does by itself inside the switch. -/
  reported : repetitions.count noted = again + repetitionsIn inner (cases.map Case.body ++ fallback.toList)

/-- A check of a switch that ends without a fault makes such a record. -/
theorem check_switch_record {env after : Env} {range : Span} {selector : Expr} {cases : List Case}
    {fallback : Option Block} {typed : TypedStmt}
    (ends : Attempt.result (check env (.switch range selector cases fallback)) = .ok (typed, after)) :
    ∃ inner values list last again, env.openScope .switch (.construct ⟨.switch, range⟩) = .ok inner ∧
      typed = .switch range values (selector.check env).value list last ∧
      Collects [] (caseNumbers inner (cases.flatMap Case.values)) values again ∧
      CaseRecord inner cases fallback list values again
        (Attempt.notes (check env (.switch range selector cases fallback))) := by
  have ran : Yields (fun _ => True) (check env (.switch range selector cases fallback)) (typed, after) :=
    ⟨ends, fun _ _ => trivial⟩
  have tells := ran.tells
  generalize Attempt.notes (check env (.switch range selector cases fallback)) = noted at tells ⊢
  simp only [check, openScope, tells_bind, tells_pure, tells_of, tells_lift] at tells
  obtain ⟨_, _, _, ⟨⟨rfl, -⟩, rfl⟩, rfl, _, _, _, ⟨-, rfl⟩, rfl, inner, _, _, ⟨opened, rfl⟩, rfl,
    ⟨list, values⟩, _, _, inside, rfl, last, _, _, behind, rfl, ⟨⟩, rfl⟩ := tells
  obtain ⟨checked, again, collects, counted⟩ := checkCases_collects [] inside
  have numbers : (list.flatMap TypedCase.values).filterMap TypedExpr.caseNumber?
      = caseNumbers inner (cases.flatMap Case.values) := by
    rw [checked, List.filterMap_map]
    rfl
  have integral : Within Apart (expect ((selector.check env).value.facts.ty.isInvalid
      || (selector.check env).value.facts.ty.isIntegral) ⟨.switch, range⟩
      (.selectorNotInteger (selector.check env).value.facts.ty)) := by simp
  refine ⟨inner, values, list, last, again, opened, rfl, collects, checked, ?_, ?_, ?_, ?_⟩
  · rw [collects.kept]
    exact nodup_eraseDups _
  · rw [numbers, collects.kept, List.nil_append]
  · rw [numbers, collects.counted, List.eraseDups_nil, List.length_nil, Nat.zero_add]
  · simp only [Tally.count_append, Tally.count_empty, selector.repetitions_check env,
      repetitions_eq_zero integral, counted, checkFallback_repetitions behind, repetitionsIn, List.map_append,
      List.sum_append]
    omega

/-- A switch keeps the numbers of its case values, each once and where it occurs first, and reports all others. With
other blocks behind the same values it keeps and reports the same. -/
theorem check_switch_caseValues (env after : Env) (range : Span) (selector : Expr) (cases : List Case)
    (fallback : Option Block) (typed : TypedStmt)
    (ends : Attempt.result (check env (.switch range selector cases fallback)) = .ok (typed, after)) :
    ∃ inner values list last again, env.openScope .switch (.construct ⟨.switch, range⟩) = .ok inner ∧
      typed = .switch range values (selector.check env).value list last ∧
      CaseRecord inner cases fallback list values again
        (Attempt.notes (check env (.switch range selector cases fallback))) ∧
      ∀ others instead other later, others.flatMap Case.values = cases.flatMap Case.values →
        Attempt.result (check env (.switch range selector others instead)) = .ok (other, later) →
        ∃ list last, other = .switch range values (selector.check env).value list last ∧
          CaseRecord inner others instead list values again
            (Attempt.notes (check env (.switch range selector others instead))) := by
  obtain ⟨inner, values, list, last, again, opened, shaped, collects, record⟩ := check_switch_record ends
  refine ⟨inner, values, list, last, again, opened, shaped, record, fun others instead other later same ends => ?_⟩
  obtain ⟨_, _, list, last, _, reopened, shaped, recollects, record⟩ := check_switch_record ends
  -- Both are checked in the same scope, so the same values have the same numbers.
  cases opened.symm.trans reopened
  rw [same] at recollects
  obtain ⟨rfl, rfl⟩ := collects.unique recollects
  exact ⟨list, last, shaped, record⟩

def crossroads : Env :=
  let node : NodeRef := ⟨.document, ⟨1, 1⟩, ⟨9, 1⟩⟩
  { document := some node
    scopes := [⟨.global, .document node, [⟨"n", .i32, .variable, .privateSpace, none⟩,
      ⟨"two", .i32, .constant, .privateSpace, some (.integer 2)⟩]⟩] }

/-- Case values of which five have a number, but only three of these differ. Inside the first case is another switch. -/
def turns : List Case :=
  let span : Span := ⟨⟨2, 1⟩, ⟨2, 9⟩⟩
  let one : Expr := .literal span "1"
  let empty : Block := .mk span []
  let inside : Stmt := .switch span one [.mk span [one, one] empty] none
  [.mk span [one, .literal span "1u", .reference span "n", .literal span "2.0"] (.mk span [inside]),
    .mk span [.reference span "two", .literal span "3", .literal span "2"] empty]

theorem check_switch_caseValues_turns :
    let span : Span := ⟨⟨2, 1⟩, ⟨2, 9⟩⟩
    let whole : Stmt := .switch span (.reference span "n") turns none
    ∃ typed after inner list last, Attempt.result (check crossroads whole) = .ok (typed, after) ∧
      typed = .switch span [1, 2, 3] ((Expr.reference span "n").check crossroads).value list last ∧
      CaseRecord inner turns none list [1, 2, 3] 2 (Attempt.notes (check crossroads whole)) ∧
      repetitions.count (Attempt.notes (check crossroads whole)) = 3 := by
  intro span whole
  have shown : (Attempt.result (check crossroads whole)).toOption.map (fun outcome => match outcome.1 with
      | .switch _ values _ list _ => (values, ((list.flatMap TypedCase.values).filterMap TypedExpr.caseNumber?).length)
      | _ => ([], 0)) = some ([1, 2, 3], 5) := by decide +kernel
  cases ends : Attempt.result (check crossroads whole) with
  | error fault =>
    rw [ends] at shown
    cases shown
  | ok outcome =>
    obtain ⟨typed, after⟩ := outcome
    obtain ⟨inner, values, list, last, again, -, rfl, record, -⟩ :=
      check_switch_caseValues crossroads after span _ turns none typed ends
    simp only [ends, Except.toOption, Option.map_some, Option.some.injEq, Prod.mk.injEq] at shown
    obtain ⟨rfl, five⟩ := shown
    obtain rfl : again = 2 := Nat.add_right_cancel (record.counted.trans five)
    exact ⟨_, after, inner, list, last, rfl, rfl, record, by decide +kernel⟩

end Stmt

end ShaderCheck
