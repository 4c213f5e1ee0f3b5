import ShaderCheck.Proofs.Lexical

/-!
Steps whose order does not count. If one step leaves alone what another one reads, the two can be taken in either order:
they come to the same results, and to notes that are the same up to their order. By induction on the permutation, so can
any number of such steps.
-/

namespace ShaderCheck

open Attempt

structure Notes.Perm (a b : Notes) : Prop where
  incidents : a.incidents.Perm b.incidents
  used : a.used.Perm b.used

namespace Notes.Perm

variable {a b c d : Notes}

theorem refl (a : Notes) : Perm a a := ⟨.refl _, .refl _⟩

theorem trans (first : Perm a b) (second : Perm b c) : Perm a c :=
  ⟨first.incidents.trans second.incidents, first.used.trans second.used⟩

theorem symm (perm : Perm a b) : Perm b a := ⟨perm.incidents.symm, perm.used.symm⟩

theorem append (first : Perm a b) (second : Perm c d) : Perm (a ++ c) (b ++ d) :=
  ⟨first.incidents.append second.incidents, first.used.append second.used⟩

theorem comm (a b : Notes) : Perm (a ++ b) (b ++ a) := ⟨List.perm_append_comm, List.perm_append_comm⟩

end Notes.Perm

namespace Attempt

variable {α β γ δ : Type}

/-- Both steps end in a fault, or both end well, with results that are related and the same notes in some order. -/
inductive Parallel (rel : α → β → Prop) (x : Attempt α) (y : Attempt β) : Prop where
  | ok {a : α} {b : β} (left : x.result = .ok a) (right : y.result = .ok b) (related : rel a b)
      (notes : x.notes.Perm y.notes)
  | fault {first second : Fault} (left : x.result = .error first) (right : y.result = .error second)

namespace Parallel

variable {rel : α → β → Prop} {x : Attempt α} {y : Attempt β}

theorem pure {a : α} {b : β} (related : rel a b) : Parallel rel (Pure.pure a) (Pure.pure b) :=
  .ok rfl rfl related (.refl _)

theorem bind {last : γ → δ → Prop} {f : α → Attempt γ} {g : β → Attempt δ} (first : Parallel rel x y)
    (second : ∀ a b, rel a b → Parallel last (f a) (g b)) : Parallel last (x >>= f) (y >>= g) := by
  cases first with
  | fault left right =>
    exact .fault (by rw [result_bind, left]; rfl) (by rw [result_bind, right]; rfl)
  | @ok a b left right related notes =>
    cases second a b related with
    | fault left' right' =>
      exact .fault (by rw [result_bind, left]; exact left') (by rw [result_bind, right]; exact right')
    | ok left' right' related' notes' =>
      refine .ok (by rw [result_bind, left]; exact left') (by rw [result_bind, right]; exact right') related' ?_
      rw [notes_bind_ok left, notes_bind_ok right]
      exact notes.append notes'

theorem trans {other : β → γ → Prop} {z : Attempt γ} (first : Parallel rel x y) (second : Parallel other y z) :
    Parallel (fun a c => ∃ b, rel a b ∧ other b c) x z := by
  cases first with
  | fault left right =>
    cases second with
    | fault _ right' => exact .fault left right'
    | ok left' => cases right.symm.trans left'
  | ok left right related notes =>
    cases second with
    | fault left' => cases right.symm.trans left'
    | ok left' right' related' notes' =>
      obtain rfl := Except.ok.inj (right.symm.trans left')
      exact .ok left right' ⟨_, related, related'⟩ (notes.trans notes')

theorem weaken {last : α → β → Prop} (parallel : Parallel rel x y) (weaker : ∀ a b, rel a b → last a b) :
    Parallel last x y := by
  cases parallel with
  | fault left right => exact .fault left right
  | ok left right related notes => exact .ok left right (weaker _ _ related) notes

theorem of_related {rel : α → α → Prop} {x y : Attempt α} (related : Related rel x y) : Parallel rel x y := by
  cases left : x.result with
  | error fault => exact .fault left (related.error left)
  | ok a =>
    obtain ⟨b, right, held⟩ := related.ok left
    exact .ok left right held (related.notes ▸ .refl _)

theorem symm (parallel : Parallel rel x y) : Parallel (fun b a => rel a b) y x := by
  cases parallel with
  | fault left right => exact .fault right left
  | ok left right related notes => exact .ok right left related notes.symm

/-- The same step may come first. -/
theorem after {last : γ → δ → Prop} {f : α → Attempt γ} {g : α → Attempt δ}
    (second : ∀ a, Parallel last (f a) (g a)) : Parallel last (x >>= f) (x >>= g) := by
  apply (of_related (.same x)).bind
  rintro a _ rfl
  exact second a

end Parallel

end Attempt

namespace Env

structure Matches (a b : Env) : Prop where
  ready : a.Ready
  document : a.document = b.document
  scopes : a.scopes = b.scopes
  symbols : a.symbols.Agree b.symbols

namespace Matches

variable {a b c : Env}

theorem refl (ready : a.Ready) : a.Matches a := ⟨ready, rfl, rfl, .refl _⟩

theorem trans (first : a.Matches b) (second : b.Matches c) : a.Matches c :=
  ⟨first.ready, first.document.trans second.document, first.scopes.trans second.scopes,
    first.symbols.trans second.symbols⟩

theorem agree (same : a.Matches b) : a.Agree b where
  symbols := same.symbols
  values name := by rw [lookup?, lookup?, same.scopes]

theorem alike (same : a.Matches b) : a.Alike b where
  toAgree := same.agree
  ready := ⟨same.ready, same.document ▸ same.ready.document, same.scopes ▸ same.ready.scope⟩
  names name := by rw [local?, local?, same.scopes]
  loop := by rw [isInside, isInside, owner?, owner?, same.scopes]
  switch := by rw [isInside, isInside, owner?, owner?, same.scopes]
  function := by rw [owner?, owner?, same.scopes]

end Matches

def SameAs {τ : Type} (x y : τ × Env) : Prop := x.1 = y.1 ∧ x.2.Matches y.2

end Env

open Env (SameAs)

section Steps

variable {δ τ : Type} (step : δ → Env → Attempt (τ × Env))

def runAll : List δ → Env → Attempt (List (δ × τ) × Env)
  | [], env => pure ([], env)
  | d :: rest, env => do
    let (t, env) ← step d env
    let (others, env) ← runAll rest env
    return ((d, t) :: others, env)

/-- Steps that come to the same where what is in force matches. Two that are apart do not see one another, and leave
the same in force in either order. -/
structure Commutes (good : δ → Prop) (apart : δ → δ → Prop) : Prop where
  symm : ∀ {d e}, apart d e → apart e d
  congr : ∀ {d a b}, good d → a.Matches b → Related SameAs (step d a) (step d b)
  blind : ∀ {d e a after u}, good d → good e → apart d e → a.Ready → (step e a).result = .ok (u, after) →
    Related (fun x y => x.1 = y.1) (step d a) (step d after)
  meet : ∀ {d e a first second left right t u t' u'}, good d → good e → apart d e → a.Ready →
    (step d a).result = .ok (t, first) → (step e first).result = .ok (u, left) →
    (step e a).result = .ok (u', second) → (step d second).result = .ok (t', right) → left.Matches right

variable {step} {good : δ → Prop} {apart : δ → δ → Prop}

theorem Commutes.congrAll (commutes : Commutes step good apart) {list : List δ} (all : ∀ d ∈ list, good d) :
    ∀ d ∈ list, ∀ a b : Env, a.Matches b → Related SameAs (step d a) (step d b) := by
  intro d member a b same
  exact commutes.congr (all d member) same

theorem runAll_congr {list : List δ}
    (congr : ∀ d ∈ list, ∀ a b : Env, a.Matches b → Related SameAs (step d a) (step d b)) {a b : Env}
    (same : a.Matches b) : Related SameAs (runAll step list a) (runAll step list b) := by
  induction list generalizing a b with
  | nil => exact .pure ⟨rfl, same⟩
  | cons d rest ih =>
    obtain ⟨first, others⟩ := List.forall_mem_cons.mp congr
    refine (first a b same).bind ?_
    rintro ⟨t, a⟩ ⟨_, b⟩ ⟨rfl, same⟩
    refine (ih others same).bind ?_
    rintro ⟨list, a⟩ ⟨_, b⟩ ⟨rfl, same⟩
    exact .pure ⟨rfl, same⟩

def runBoth (step : δ → Env → Attempt (τ × Env)) (d e : δ) (env : Env) : Attempt ((τ × τ) × Env) := do
  let (t, env) ← step d env
  let (u, env) ← step e env
  return ((t, u), env)

section Both

variable {d e : δ} {env middle after : Env} {t u : τ} {fault : Fault}

theorem runBoth_ok (first : (step d env).result = .ok (t, middle)) (second : (step e middle).result = .ok (u, after)) :
    (runBoth step d e env).result = .ok ((t, u), after)
      ∧ (runBoth step d e env).notes = (step d env).notes ++ (step e middle).notes := by
  rw [runBoth, result_bind, first, notes_bind_ok first]
  simp only [Except.bind]
  rw [result_bind, second, notes_bind_ok second, notes_pure, Notes.append_empty]
  exact ⟨rfl, rfl⟩

theorem runBoth_first_fault (first : (step d env).result = .error fault) :
    (runBoth step d e env).result = .error fault := by
  rw [runBoth, result_bind, first]
  rfl

theorem runBoth_second_fault (first : (step d env).result = .ok (t, middle))
    (second : (step e middle).result = .error fault) : (runBoth step d e env).result = .error fault := by
  rw [runBoth, result_bind, first]
  simp only [Except.bind]
  rw [result_bind, second]
  rfl

/-- Two steps that are apart come to the same in either order. -/
theorem runBoth_swap (commutes : Commutes step good apart) (first : good d) (second : good e) (distinct : apart d e)
    (ready : env.Ready) :
    Parallel (fun x y => x.1 = y.1.swap ∧ x.2.Matches y.2) (runBoth step d e env) (runBoth step e d env) := by
  have reversed := commutes.symm distinct
  rcases left : (step d env).result with fault | ⟨t, one⟩ <;> rcases right : (step e env).result with other | ⟨u, two⟩
  · exact .fault (runBoth_first_fault left) (runBoth_first_fault right)
  · have late := (commutes.blind first second distinct ready right).error left
    exact .fault (runBoth_first_fault left) (runBoth_second_fault right late)
  · have late := (commutes.blind second first reversed ready left).error right
    exact .fault (runBoth_second_fault left late) (runBoth_first_fault right)
  · have seconds := commutes.blind second first reversed ready left
    have firsts := commutes.blind first second distinct ready right
    obtain ⟨⟨_, after⟩, left', rfl⟩ := seconds.ok right
    obtain ⟨⟨_, after'⟩, right', rfl⟩ := firsts.ok left
    obtain ⟨ends, noted⟩ := runBoth_ok left left'
    obtain ⟨ends', noted'⟩ := runBoth_ok right right'
    refine .ok ends ends' ⟨rfl, commutes.meet first second distinct ready left left' right right'⟩ ?_
    rw [noted, noted', ← seconds.notes, ← firsts.notes]
    exact .comm _ _

end Both

theorem runAll_cons_cons (d e : δ) (rest : List δ) (env : Env) :
    runAll step (d :: e :: rest) env = runBoth step d e env >>= fun outcome =>
      runAll step rest outcome.2 >>= fun others =>
        pure ((d, outcome.1.1) :: (e, outcome.1.2) :: others.1, others.2) := by
  simp only [runAll, runBoth, bind_assoc, pure_bind]

def SameFor (x y : List (δ × τ) × Env) : Prop := x.1.Perm y.1 ∧ x.2.Matches y.2

theorem SameFor.trans {x y z : List (δ × τ) × Env} (first : SameFor x y) (second : SameFor y z) : SameFor x z :=
  ⟨first.1.trans second.1, first.2.trans second.2⟩

theorem SameFor.of_sameAs {x y : List (δ × τ) × Env} (same : SameAs x y) : SameFor x y := ⟨.of_eq same.1, same.2⟩

theorem runAll_swap (commutes : Commutes step good apart) {d e : δ} {rest : List δ} (all : ∀ x ∈ d :: e :: rest, good x)
    (distinct : apart d e) {env : Env} (ready : env.Ready) :
    Parallel SameFor (runAll step (d :: e :: rest) env) (runAll step (e :: d :: rest) env) := by
  obtain ⟨first, all⟩ := List.forall_mem_cons.mp all
  obtain ⟨second, others⟩ := List.forall_mem_cons.mp all
  rw [runAll_cons_cons, runAll_cons_cons]
  refine (runBoth_swap commutes first second distinct ready).bind ?_
  rintro ⟨_, a⟩ ⟨⟨u, t⟩, b⟩ ⟨rfl, same⟩
  refine (Parallel.of_related (runAll_congr (commutes.congrAll others) same)).bind ?_
  rintro ⟨list, a⟩ ⟨_, b⟩ ⟨rfl, same⟩
  exact .pure ⟨.swap _ _ _, same⟩

/-- Steps that are apart from one another come to the same in any order. -/
theorem runAll_perm (commutes : Commutes step good apart) {list other : List δ} (perm : list.Perm other)
    (all : ∀ d ∈ list, good d) (distinct : list.Pairwise apart) {a b : Env} (same : a.Matches b) :
    Parallel SameFor (runAll step list a) (runAll step other b) := by
  induction perm generalizing a b with
  | nil => exact .pure ⟨.refl _, same⟩
  | cons d perm ih =>
    obtain ⟨first, others⟩ := List.forall_mem_cons.mp all
    refine (Parallel.of_related (commutes.congr first same)).bind ?_
    rintro ⟨t, a⟩ ⟨_, b⟩ ⟨rfl, same⟩
    refine (ih others distinct.of_cons same).bind ?_
    rintro ⟨list, a⟩ ⟨list', b⟩ ⟨perm, same⟩
    exact .pure ⟨perm.cons _, same⟩
  | swap d e rest =>
    have swapped := runAll_swap commutes all (List.rel_of_pairwise_cons distinct List.mem_cons_self) same.ready
    have all' : ∀ x ∈ d :: e :: rest, good x := fun x member => all x ((List.Perm.swap d e rest).mem_iff.mpr member)
    have copied := runAll_congr (commutes.congrAll all') same
    refine (swapped.trans (.of_related copied)).weaken ?_
    rintro x z ⟨y, one, two⟩
    exact one.trans (.of_sameAs two)
  | trans one two ih ih' =>
    have all' := fun x member => all x (one.mem_iff.mpr member)
    have distinct' := (one.pairwise_iff commutes.symm).mp distinct
    refine ((ih all distinct same).trans (ih' all' distinct' (.refl same.alike.ready.2))).weaken ?_
    rintro x z ⟨y, one, two⟩
    exact one.trans two

end Steps

end ShaderCheck
