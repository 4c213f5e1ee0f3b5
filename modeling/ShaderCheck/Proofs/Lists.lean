import Mathlib.Algebra.GroupWithZero.Nat
import Mathlib.Data.List.Forall2
import Mathlib.Data.List.Nodup

/-!
What the theory needs of lists in general: lists that go together item by item, items that are found by their names, and
items that occur once.
-/

namespace ShaderCheck

variable {α β γ δ : Type}

/-! ### Item by item -/

theorem exists_of_forall₂ {rel : α → β → Prop} {as : List α} {bs : List β} (all : List.Forall₂ rel as bs) :
    ∀ a ∈ as, ∃ b ∈ bs, rel a b := by
  induction all with
  | nil => nofun
  | @cons a b _ _ first _ ih =>
    refine List.forall_mem_cons.mpr ⟨⟨b, List.mem_cons_self, first⟩, fun other member => ?_⟩
    obtain ⟨partner, found, related⟩ := ih other member
    exact ⟨partner, List.mem_cons_of_mem b found, related⟩

theorem mapM_eq_some_iff {f : α → Option β} {xs : List α} {ys : List β} :
    xs.mapM f = some ys ↔ List.Forall₂ (fun x y => f x = some y) xs ys := by
  induction xs generalizing ys with
  | nil => cases ys <;> simp
  | cons x xs ih => cases ys <;> simp [List.mapM_cons, Option.bind_eq_some_iff, ih]

theorem mapM_isSome_iff {f : α → Option β} {xs : List α} : (xs.mapM f).isSome ↔ ∀ x ∈ xs, (f x).isSome := by
  induction xs with
  | nil => simp
  | cons x xs ih =>
    rw [List.forall_mem_cons, ← ih, List.mapM_cons]
    cases f x <;> cases xs.mapM f <;> simp

theorem forall₂_zip {related : α → β → Prop} {combine : β → γ → δ} {xs : List α} {ys : List β} {zs : List γ}
    (pairs : List.Forall₂ related xs ys) (length : xs.length = zs.length) :
    List.Forall₂ (fun pair result => ∃ y, related pair.1 y ∧ result = combine y pair.2)
      (xs.zip zs) (List.zipWith combine ys zs) := by
  induction pairs generalizing zs with
  | nil => simp
  | cons head tail ih =>
    cases zs with
    | nil => simp at length
    | cons z zs => exact .cons ⟨_, head, rfl⟩ (ih (by simpa using length))

theorem forall₂_of_zip {related : α × β → γ → Prop} {result : β → γ → Prop} {xs : List α} {ys : List β} {zs : List γ}
    (length : xs.length = ys.length) (pairs : List.Forall₂ related (xs.zip ys) zs)
    (holds : ∀ pair ∈ xs.zip ys, ∀ z, related pair z → result pair.2 z) : List.Forall₂ result ys zs := by
  have listed := (List.forall₂_and_left _ _).mpr ⟨fun pair (member : pair ∈ xs.zip ys) => member, pairs⟩
  rw [← List.map_snd_zip (Nat.le_of_eq length.symm), List.forall₂_map_left_iff]
  exact listed.imp fun pair z both => holds pair both.1 z both.2

theorem all_of_all {items : List α} {p q : α → Bool} (implies : ∀ item ∈ items, p item = true → q item = true)
    (all : items.all p = true) : items.all q = true :=
  List.all_eq_true.mpr fun item listed => implies item listed (List.all_eq_true.mp all item listed)

theorem sum_of_forall₂ {whole first : α → Nat} {second : β → Nat} {xs : List α} {ys : List β}
    (each : List.Forall₂ (fun x y => whole x = first x + second y) xs ys) :
    (xs.map whole).sum = (xs.map first).sum + (ys.map second).sum := by
  induction each with
  | nil => rfl
  | cons one _ ih =>
    simp only [List.map_cons, List.sum_cons]
    omega

/-- A count is the sum of the answers. -/
theorem sum_map_toNat (p : α → Bool) (xs : List α) : (xs.map fun x => (p x).toNat).sum = xs.countP p := by
  induction xs with
  | nil => rfl
  | cons x rest ih =>
    rw [List.map_cons, List.sum_cons, ih, List.countP_cons]
    cases p x <;> simp [Nat.add_comm]

/-! ### Items by their names -/

theorem mem_of_lookup_eq_some {entries : List (String × α)} {name : String} {value : α}
    (found : entries.lookup name = some value) : (name, value) ∈ entries := by
  obtain ⟨before, after, rfl, -⟩ := List.lookup_eq_some_iff.mp found
  exact List.mem_append_right before List.mem_cons_self

/-- Among items with different names, each is the one that is found under its name. -/
theorem find?_of_nodup {name : α → String} {items : List α} (distinct : (items.map name).Nodup) {item : α}
    (listed : item ∈ items) : items.find? (fun other => name other = name item) = some item := by
  cases found : items.find? (fun other => name other = name item) with
  | none =>
    have differs := List.find?_eq_none.mp found item listed
    simp at differs
  | some other =>
    have same : name other = name item := by simpa using List.find?_some found
    rw [List.inj_on_of_nodup_map distinct (List.mem_of_find?_eq_some found) listed same]

/-- A new name hides none of those that were found before. -/
theorem find?_cons_of_fresh {name : α → String} {items : List α} {item : α}
    (fresh : items.find? (fun other => name other = name item) = none) {wanted : String} {other : α}
    (found : items.find? (fun other => name other = wanted) = some other) :
    (item :: items).find? (fun other => name other = wanted) = some other := by
  have different : name item ≠ wanted := by
    intro same
    rw [← same, fresh] at found
    cases found
  rw [List.find?_cons_of_neg (by simpa using different)]
  exact found

/-- If all that is found is the same, it does not matter where it is found first. -/
theorem findSome?_id_of_mem {order : List (Option α)} {expected : Option α}
    (each : ∀ one ∈ order, one = none ∨ one = expected) (listed : expected ∈ order) :
    order.findSome? id = expected := by
  cases found : order.findSome? id with
  | none => exact (List.findSome?_eq_none_iff.mp found expected listed).symm
  | some a =>
    obtain ⟨one, member, same⟩ := List.exists_of_findSome?_eq_some found
    obtain rfl | rfl := each one member
    · cases same
    · exact same.symm

/-! ### Items that occur once -/

theorem nodup_append_singleton {items : List α} (distinct : items.Nodup) (item : α) :
    (items ++ [item]).Nodup ↔ item ∉ items := by
  rw [(List.perm_append_singleton item items).nodup_iff, List.nodup_cons]
  exact and_iff_left distinct

/-- Items that occur twice go on to do so when more are added. -/
theorem not_nodup_append (first second : List α) :
    (¬ first.Nodup ∨ ¬ (first ++ second).Nodup) ↔ ¬ (first ++ second).Nodup :=
  or_iff_right_of_imp fun early distinct => early (distinct.sublist (List.sublist_append_left first second))

section Once

variable [BEq α] [LawfulBEq α]

theorem nodup_eraseDups : (items : List α) → items.eraseDups.Nodup
  | [] => List.nodup_nil
  | item :: rest => by
    rw [List.eraseDups_cons, List.nodup_cons]
    refine ⟨?_, nodup_eraseDups _⟩
    rw [List.mem_eraseDups, List.mem_filter]
    simp
termination_by items => items.length
decreasing_by exact Nat.lt_succ_of_le (List.length_filter_le _ _)

/-- One more item is kept unless it occurs before. -/
theorem eraseDups_concat (items : List α) (item : α) :
    (items ++ [item]).eraseDups = if item ∈ items then items.eraseDups else items.eraseDups ++ [item] := by
  rw [List.eraseDups_append]
  split
  case isTrue known => simp [List.removeAll, known]
  case isFalse unknown => simp [List.removeAll, unknown, List.eraseDups_cons]

end Once

end ShaderCheck
