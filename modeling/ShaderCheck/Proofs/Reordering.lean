import ShaderCheck.Proofs.Independence
import ShaderCheck.Proofs.Lists

/-!
The order of the declarations of a document. It matters only among structs and aliases, and among globals: functions and
enums with names of their own may stand anywhere. A reordered document ends well if the original does, each declaration
gets the same facts, and the same is noted in another order.
-/

namespace ShaderCheck

open Attempt

/-- The list of used names does not depend on the order of the uses. -/
theorem Context.usedNames_perm {a b : Context} (used : a.notes.used.Perm b.notes.used) : a.usedNames = b.usedNames := by
  have names : a.notes.used.eraseDups.Perm b.notes.used.eraseDups := by
    rw [List.perm_ext_iff_of_nodup (nodup_eraseDups _) (nodup_eraseDups _)]
    intro name
    rw [List.mem_eraseDups, List.mem_eraseDups, used.mem_iff]
  have sorted : ∀ list : List String,
      (list.mergeSort fun a b => decide (a ≤ b)).Pairwise fun a b => decide (a ≤ b) = true :=
    List.pairwise_mergeSort
      (fun a b c first second => by simpa using String.le_trans (by simpa using first) (by simpa using second))
      (fun a b => by simpa using String.le_total a b)
  have perm := (List.mergeSort_perm a.notes.used.eraseDups fun a b => decide (a ≤ b)).trans
    (names.trans (List.mergeSort_perm b.notes.used.eraseDups fun a b => decide (a ≤ b)).symm)
  refine List.Perm.eq_of_pairwise ?_ (sorted _) (sorted _) perm
  intro a b _ _ first second
  exact String.le_antisymm (by simpa using first) (by simpa using second)

namespace Document

def Slot.fact? (slot : Slot) : Option (Decl × TypedDecl) := slot.typed.map (slot.declaration, ·)

/-- What a round makes of some slots: those that are due get the given facts, and the others are left as they are. -/
structure Slot.Filled (round : Round) (slots later : List Slot) (facts : List (Decl × TypedDecl)) : Prop where
  declarations : later.map (·.declaration) = slots.map (·.declaration)
  due : (later.filter (·.declaration.round = round)).map fact? = facts.map some
  others : ∀ other ≠ round, later.filter (·.declaration.round = other) = slots.filter (·.declaration.round = other)

namespace Slot.Filled

variable {round : Round} {slots later : List Slot} {facts : List (Decl × TypedDecl)}

theorem cons_due (filled : Filled round slots later facts) {slot : Slot} (due : slot.declaration.round = round)
    (typed : TypedDecl) :
    Filled round (slot :: slots) ({ slot with typed := some typed } :: later) ((slot.declaration, typed) :: facts) where
  declarations := congrArg (slot.declaration :: ·) filled.declarations
  due := by
    rw [List.filter_cons_of_pos (by simpa using due), List.map_cons, filled.due]
    rfl
  others other different := by
    have waits : ¬ slot.declaration.round = other := fun same => different (same.symm.trans due)
    rw [List.filter_cons_of_neg (by simpa using waits), List.filter_cons_of_neg (by simpa using waits)]
    exact filled.others other different

theorem cons_other (filled : Filled round slots later facts) {slot : Slot} (waits : ¬ slot.declaration.round = round) :
    Filled round (slot :: slots) (slot :: later) facts where
  declarations := congrArg (slot.declaration :: ·) filled.declarations
  due := by
    rw [List.filter_cons_of_neg (by simpa using waits)]
    exact filled.due
  others other different := by
    rw [List.filter_cons, List.filter_cons, filled.others other different]

end Slot.Filled

abbrev checkAll : List Decl → Env → Attempt (List (Decl × TypedDecl) × Env) :=
  runAll fun declaration env => declaration.check env

/-- A round checks the declarations that are due, and fills their slots. -/
theorem checkRound_filled (round : Round) (slots : List Slot) (env : Env) :
    Parallel (fun x y => Slot.Filled round slots x.1 y.1 ∧ x.2 = y.2) (checkRound round slots env)
      (checkAll ((slots.map (·.declaration)).filter (·.round = round)) env) := by
  induction slots generalizing env with
  | nil => exact .pure ⟨⟨rfl, rfl, fun _ _ => rfl⟩, rfl⟩
  | cons slot rest ih =>
    rw [checkRound, List.map_cons]
    split
    case isTrue due =>
      rw [List.filter_cons_of_pos (by simpa using due), checkAll, runAll]
      refine .after fun outcome => (ih outcome.2).bind ?_
      rintro ⟨later, after⟩ ⟨facts, _⟩ ⟨filled, rfl⟩
      exact .pure ⟨filled.cons_due due outcome.1, rfl⟩
    case isFalse waits =>
      rw [List.filter_cons_of_neg (by simpa using waits), ← bind_pure (checkAll _ env)]
      refine (ih env).bind ?_
      rintro ⟨later, after⟩ ⟨facts, _⟩ ⟨filled, rfl⟩
      exact .pure ⟨filled.cons_other waits, rfl⟩

/-- Two rounds that fill their slots with facts that are related, and leave the same in force. -/
theorem checkRound_parallel {round : Round} {slots slots' : List Slot} {declarations declarations' : List Decl}
    {a b : Env} (rel : List (Decl × TypedDecl) → List (Decl × TypedDecl) → Prop)
    (left : slots.map (·.declaration) = declarations) (right : slots'.map (·.declaration) = declarations')
    (checked : Parallel (fun x y => rel x.1 y.1 ∧ x.2.Matches y.2) (checkAll (declarations.filter (·.round = round)) a)
      (checkAll (declarations'.filter (·.round = round)) b)) :
    Parallel (fun x y => (∃ facts facts', Slot.Filled round slots x.1 facts ∧ Slot.Filled round slots' y.1 facts'
      ∧ rel facts facts') ∧ x.2.Matches y.2) (checkRound round slots a) (checkRound round slots' b) := by
  subst left right
  have steps := (checkRound_filled round slots a).trans (checked.trans (checkRound_filled round slots' b).symm)
  refine steps.weaken ?_
  rintro x y ⟨⟨facts, env⟩, ⟨filled, left⟩, ⟨facts', env'⟩, ⟨related, same⟩, filled', right⟩
  exact ⟨⟨facts, facts', filled, filled', related⟩, left ▸ right ▸ same⟩

def facts (document : Document) (typed : TypedDocument) : List (Decl × TypedDecl) :=
  document.declarations.zip typed.declarations

section Facts

variable {slots : List Slot}

theorem filterMap_filter (slots : List Slot) (round : Round) :
    (slots.filterMap Slot.fact?).filter (·.1.round = round)
      = (slots.filter (·.declaration.round = round)).filterMap Slot.fact? := by
  induction slots with
  | nil => rfl
  | cons slot rest ih =>
    obtain ⟨declaration, _ | typed⟩ := slot <;> by_cases due : declaration.round = round <;>
      simp [Slot.fact?, List.filterMap_cons, due, ih]

theorem zip_filterMap_typed (full : ∀ slot ∈ slots, slot.fact?.isSome) :
    (slots.map (·.declaration)).zip (slots.filterMap (·.typed)) = slots.filterMap Slot.fact?
      ∧ (slots.filterMap (·.typed)).length = slots.length := by
  induction slots with
  | nil => exact ⟨rfl, rfl⟩
  | cons slot rest ih =>
    obtain ⟨first, others⟩ := List.forall_mem_cons.mp full
    obtain ⟨zipped, length⟩ := ih others
    obtain ⟨declaration, _ | typed⟩ := slot
    · cases first
    · simp [Slot.fact?, zipped, length]

def factsOf (enums layouts globals bodies : List (Decl × TypedDecl)) : Round → List (Decl × TypedDecl)
  | .enums => enums
  | .layouts => layouts
  | .globals => globals
  | .bodies => bodies

/-- After the four rounds each declaration has the facts that the round it was due in gave it. -/
theorem facts_of_filled {declarations : List Decl} {a b c d : List Slot}
    {enums layouts globals bodies : List (Decl × TypedDecl)}
    (first : Slot.Filled .enums (declarations.map fun declaration => { declaration }) a enums)
    (second : Slot.Filled .layouts a b layouts) (third : Slot.Filled .globals b c globals)
    (fourth : Slot.Filled .bodies c d bodies) :
    (d.filterMap (·.typed)).length = declarations.length
      ∧ ∀ round, (declarations.zip (d.filterMap (·.typed))).filter (·.1.round = round)
        = factsOf enums layouts globals bodies round := by
  have due : ∀ round, (d.filter (·.declaration.round = round)).map Slot.fact?
      = (factsOf enums layouts globals bodies round).map some := by
    intro round
    cases round with
    | enums =>
      rw [fourth.others _ (by decide), third.others _ (by decide), second.others _ (by decide)]
      exact first.due
    | layouts =>
      rw [fourth.others _ (by decide), third.others _ (by decide)]
      exact second.due
    | globals =>
      rw [fourth.others _ (by decide)]
      exact third.due
    | bodies => exact fourth.due
  have written : d.map (·.declaration) = declarations := by
    rw [fourth.declarations, third.declarations, second.declarations, first.declarations, List.map_map]
    exact List.map_id _
  have full : ∀ slot ∈ d, slot.fact?.isSome := by
    intro slot member
    have listed : slot.fact? ∈ (d.filter (·.declaration.round = slot.declaration.round)).map Slot.fact? :=
      List.mem_map_of_mem (List.mem_filter.mpr ⟨member, by simp⟩)
    rw [due] at listed
    obtain ⟨fact, -, found⟩ := List.mem_map.mp listed
    rw [← found]
    rfl
  obtain ⟨zipped, length⟩ := zip_filterMap_typed full
  rw [written] at zipped
  refine ⟨by rw [length, ← written, List.length_map], fun round => ?_⟩
  have unwrapped := congrArg (List.filterMap id) (due round)
  simp only [List.filterMap_map, Function.id_comp, List.filterMap_some] at unwrapped
  rw [zipped, filterMap_filter, ← unwrapped]

end Facts

/-- The same declarations in another order, which is kept among structs and aliases and among globals. -/
structure Reorders (a b : Document) : Prop where
  range : a.range = b.range
  declarations : a.declarations.Perm b.declarations
  layouts : a.declarations.filter (·.round = .layouts) = b.declarations.filter (·.round = .layouts)
  globals : a.declarations.filter (·.round = .globals) = b.declarations.filter (·.round = .globals)

/-- The declarations of two documents have the same facts: each declaration has some, they are the same up to the order,
and those of structs and aliases and those of globals even in the same order. -/
structure Corresponds (a b : Document) (first second : TypedDocument) : Prop where
  range : first.range = second.range
  counts : first.counts = second.counts
  complete : first.declarations.length = a.declarations.length ∧ second.declarations.length = b.declarations.length
  facts : (a.facts first).Perm (b.facts second)
  layouts : (a.facts first).filter (·.1.round = .layouts) = (b.facts second).filter (·.1.round = .layouts)
  globals : (a.facts first).filter (·.1.round = .globals) = (b.facts second).filter (·.1.round = .globals)

theorem perm_of_rounds {list other : List (Decl × TypedDecl)}
    (same : ∀ round, (list.filter (·.1.round = round)).Perm (other.filter (·.1.round = round))) : list.Perm other := by
  classical
  rw [List.perm_iff_count]
  intro fact
  have kept : ∀ list : List (Decl × TypedDecl), (list.filter (·.1.round = fact.1.round)).count fact = list.count fact :=
    fun list => List.count_filter (by simp)
  rw [← kept list, ← kept other]
  exact (same fact.1.round).count_eq fact

theorem Reorders.counts {a b : Document} (reorders : a.Reorders b) : a.counts = b.counts := by
  unfold Document.counts
  rw [reorders.declarations.countP_eq, reorders.declarations.countP_eq, reorders.declarations.countP_eq]

theorem map_name_enums (declarations : List Decl) :
    (declarations.filter (·.round = .enums)).map Decl.name
      = (declarations.filterMap Decl.enumeration?).map (·.name) := by
  induction declarations with
  | nil => rfl
  | cons declaration rest ih =>
    cases declaration with
    | enumeration declaration => exact congrArg (declaration.name :: ·) ih
    | _ => exact ih

section Rounds

variable {a b : Document} {slots slots' : List Slot} {env env' : Env}

theorem enums_parallel (reorders : a.Reorders b) (distinct : (a.enums.map (·.name)).Nodup) (same : env.Matches env') :
    Parallel SameFor (checkAll (a.declarations.filter (·.round = .enums)) env)
      (checkAll (b.declarations.filter (·.round = .enums)) env') := by
  refine runAll_perm enums_commute (reorders.declarations.filter _) ?_ ?_ same
  · intro declaration member
    simpa using List.of_mem_filter member
  · rw [enums, ← map_name_enums] at distinct
    exact List.pairwise_map.mp distinct

theorem bodies_parallel (reorders : a.Reorders b) (same : env.Matches env') :
    Parallel SameFor (checkAll (a.declarations.filter (·.round = .bodies)) env)
      (checkAll (b.declarations.filter (·.round = .bodies)) env') := by
  refine runAll_perm bodies_commute (reorders.declarations.filter _) ?_ ?_ same
  · intro declaration member
    simpa using List.of_mem_filter member
  · exact List.pairwise_of_forall fun _ _ => trivial

theorem checkAll_parallel (declarations : List Decl) (same : env.Matches env') :
    Parallel Env.SameAs (checkAll declarations env) (checkAll declarations env') :=
  .of_related (runAll_congr (fun declaration _ _ _ same => declaration.check_related same) same)

theorem signatures_parallel (reorders : a.Reorders b) (distinct : (a.functions.map (·.name)).Nodup)
    (same : env.Matches env') :
    Parallel Env.Matches (liftM (collectSignatures env a.declarations))
      (liftM (collectSignatures env' b.declarations)) := by
  rw [collectSignatures_eq, collectSignatures_eq]
  have signed := runAll_perm FunctionDecl.signatures_commute (reorders.declarations.filterMap Decl.function?)
    (fun _ _ => trivial) (List.pairwise_map.mp distinct) same
  exact signed.bind fun _ _ same => .pure same.2

end Rounds

theorem declarations_slots (document : Document) :
    (document.declarations.map fun declaration => ({ declaration } : Slot)).map (·.declaration)
      = document.declarations := by
  rw [List.map_map]
  exact List.map_id _

/-- The checks of a document and of a reordering of it end alike. -/
theorem effect_parallel {a b : Document} (reorders : a.Reorders b) (functions : (a.functions.map (·.name)).Nodup)
    (enums : (a.enums.map (·.name)).Nodup) :
    Parallel (fun x y => a.Corresponds b x.1 y.1 ∧ x.2.Matches y.2) (a.effect {}) (b.effect {}) := by
  rw [effect, effect, ← reorders.range]
  refine Parallel.bind (.ok rfl rfl ⟨rfl, rfl, List.cons_ne_nil _ _⟩ (.refl _))
    fun env env' (opened : env = env' ∧ env.Ready) => ?_
  obtain ⟨rfl, ready⟩ := opened
  have ready : ({ env with symbols := Builtin.register env.symbols } : Env).Ready := ready.withSymbols _
  -- Each round finds the same declarations due, in the order kept or in one that does not matter.
  refine (checkRound_parallel List.Perm a.declarations_slots b.declarations_slots
    (enums_parallel reorders enums (.refl ready))).bind ?_
  rintro ⟨slots₁, env₁⟩ ⟨slots₁', env₁'⟩ ⟨⟨facts₁, facts₁', filled₁, filled₁', same₁⟩, matches₁⟩
  have left₁ := filled₁.declarations.trans a.declarations_slots
  have right₁ := filled₁'.declarations.trans b.declarations_slots
  refine (checkRound_parallel Eq left₁ right₁ (reorders.layouts ▸ checkAll_parallel _ matches₁)).bind ?_
  rintro ⟨slots₂, env₂⟩ ⟨slots₂', env₂'⟩ ⟨⟨facts₂, facts₂', filled₂, filled₂', same₂⟩, matches₂⟩
  have left₂ := filled₂.declarations.trans left₁
  have right₂ := filled₂'.declarations.trans right₁
  refine (signatures_parallel reorders functions matches₂).bind fun env₃ env₃' matches₃ => ?_
  refine (checkRound_parallel Eq left₂ right₂ (reorders.globals ▸ checkAll_parallel _ matches₃)).bind ?_
  rintro ⟨slots₃, env₄⟩ ⟨slots₃', env₄'⟩ ⟨⟨facts₃, facts₃', filled₃, filled₃', same₃⟩, matches₄⟩
  have left₃ := filled₃.declarations.trans left₂
  have right₃ := filled₃'.declarations.trans right₂
  refine (checkRound_parallel List.Perm left₃ right₃ (bodies_parallel reorders matches₄)).bind ?_
  rintro ⟨slots₄, env₅⟩ ⟨slots₄', env₅'⟩ ⟨⟨facts₄, facts₄', filled₄, filled₄', same₄⟩, matches₅⟩
  obtain ⟨length, left⟩ := facts_of_filled filled₁ filled₂ filled₃ filled₄
  obtain ⟨length', right⟩ := facts_of_filled filled₁' filled₂' filled₃' filled₄'
  refine .pure ⟨⟨rfl, reorders.counts, ⟨length, length'⟩, perm_of_rounds fun round => ?_, ?_, ?_⟩, matches₅⟩
  · rw [facts, facts, left, right]
    cases round with
    | enums => exact same₁
    | layouts => exact .of_eq same₂
    | globals => exact .of_eq same₃
    | bodies => exact same₄
  · rw [facts, facts, left, right]
    exact same₂
  · rw [facts, facts, left, right]
    exact same₃

/-- The checks of two documents end alike: both in a fault, or both well, with the same facts, symbols, global scope and
used names, and the same incidents in some order. -/
inductive EndAlike (a b : Document) : Except Fault TypedDocument × Context → Except Fault TypedDocument × Context → Prop
  | ok {first second : TypedDocument} {after after' : Context} (facts : a.Corresponds b first second)
      (symbols : after.env.symbols.Agree after'.env.symbols) (scopes : after.env.scopes = after'.env.scopes)
      (used : after.usedNames = after'.usedNames) (incidents : after.incidents.Perm after'.incidents) :
      EndAlike a b (.ok first, after) (.ok second, after')
  | fault {first second : Fault} {after after' : Context} : EndAlike a b (.error first, after) (.error second, after')

/-- Functions and enums with names of their own may stand anywhere in a document. -/
theorem check_reordered (a b : Document) (reorders : a.Reorders b) (functions : (a.functions.map (·.name)).Nodup)
    (enums : (a.enums.map (·.name)).Nodup) : EndAlike a b (a.check.run {}) (b.check.run {}) := by
  obtain ⟨after, ran, noted, left⟩ := a.check_does {}
  obtain ⟨after', ran', noted', left'⟩ := b.check_does {}
  rw [ran, ran']
  cases effect_parallel reorders functions enums with
  | fault ends ends' =>
    rw [ends, ends']
    exact .fault
  | ok ends ends' related notes =>
    have perm : after.notes.Perm after'.notes := noted ▸ noted' ▸ (Notes.Perm.refl _).append notes
    rw [← left _ _ ends, ← left' _ _ ends'] at related
    rw [ends, ends']
    exact .ok related.1 related.2.symbols related.2.scopes (Context.usedNames_perm perm.used) perm.incidents

def line (number : UInt32) : Span := ⟨⟨number, 1⟩, ⟨number, 9⟩⟩

/-- Two functions that call each other, each with a name that stands for nothing, and two enums. -/
def moved : List Decl :=
  let integer : TypeRef := .mk (line 1) "i32" []
  let calls (number : UInt32) (name callee unknown : String) : Decl :=
    .function ⟨line number, name, [⟨line number, [], [⟨line number, "x", .mk (line number) "S" []⟩], integer⟩],
      .mk (line number) [
        .call (line number) (line number) "missing" [] [.reference (line number) unknown],
        .returning (line number) (some (.call (line number) callee [] [.reference (line number) "x"]))]⟩
  [calls 1 "f" "g" "u", .enumeration ⟨line 2, "E", [⟨line 2, "A", none⟩, ⟨line 2, "B", none⟩]⟩, calls 3 "g" "f" "v",
    .enumeration ⟨line 4, "F", [⟨line 4, "A", none⟩]⟩]

/-- A struct with an enum in it, an alias for the struct, and two globals of which the second is the first. -/
def kept : List Decl :=
  [.struct ⟨line 5, "S", [⟨line 5, "kind", .mk (line 5) "E" []⟩]⟩, .alias ⟨line 6, "T", .mk (line 6) "S" []⟩,
    .variable ⟨line 7, "const", "one", none, some (.literal (line 7) "1")⟩,
    .variable ⟨line 8, "const", "two", none, some (.reference (line 8) "one")⟩]

def scattered : Document := ⟨line 1, moved ++ kept⟩

def gathered : Document := ⟨line 1, kept ++ moved.reverse⟩

theorem scattered_reorders_gathered : scattered.Reorders gathered :=
  ⟨rfl, List.perm_append_comm.trans (.append_left _ (List.reverse_perm _).symm), rfl, rfl⟩

theorem check_reordered_gathered :
    scattered.Reorders gathered ∧ (scattered.functions.map (·.name)).Nodup ∧ (scattered.enums.map (·.name)).Nodup
    ∧ (scattered.check.run {}).1.toBool ∧ (scattered.check.run {}).2.incidents ≠ (gathered.check.run {}).2.incidents
    ∧ EndAlike scattered gathered (scattered.check.run {}) (gathered.check.run {}) := by
  have functions : (scattered.functions.map (·.name)).Nodup := by decide
  have enums : (scattered.enums.map (·.name)).Nodup := by decide
  exact ⟨scattered_reorders_gathered, functions, enums, by decide +kernel, by decide +kernel,
    check_reordered scattered gathered scattered_reorders_gathered functions enums⟩

end Document

end ShaderCheck
