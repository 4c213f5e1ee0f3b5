import ShaderCheck.Json.Record
import ShaderCheck.Proofs.Lists

/-!
The forms that a value may take in JSON. Each has a canonical one, in which every record is an object with all of its
fields in their declared order. The other forms of a record have their fields in another order, further fields that it
does not declare, or none where a field holds its default; or they are arrays of the fields. Reading a record finds its
fields in each of these forms.
-/

namespace ShaderCheck.Json

/-- The forms of one value: the canonical one, and all that are admitted. -/
structure Format where
  canonical : Json
  Admits : Json → Prop
  sound : Admits canonical

/-- A field of a record. One that holds its default may be left out. -/
structure Field where
  name : String
  format : Format
  omittable : Bool

namespace Field

def Given (field : Field) : Option Json → Prop
  | some value => field.format.Admits value
  | none => field.omittable = true

def entry (field : Field) (given : Option Json) : List (String × Json) := (given.map (field.name, ·)).toList

end Field

def entries (fields : List Field) (given : List (Option Json)) : List (String × Json) :=
  (fields.zipWith Field.entry given).flatten

inductive IsRecord (fields : List Field) : Json → Prop where
  | object {given : List (Option Json)} {further all : List (String × Json)}
      (present : List.Forall₂ Field.Given fields given)
      (undeclared : ∀ entry ∈ further, entry.1 ∉ fields.map Field.name)
      (reordered : all.Perm (entries fields given ++ further)) : IsRecord fields (.object all)
  | array {items : List Json} {left : Nat}
      (present : List.Forall₂ Field.Given fields (items.map some ++ List.replicate left none)) :
      IsRecord fields (.array items)

inductive IsVariant (tag : String) (fields : List Field) : Json → Prop where
  | object {given : List (Option Json)} {further all : List (String × Json)}
      (present : List.Forall₂ Field.Given fields given)
      (undeclared : ∀ entry ∈ further, entry.1 ≠ "type" ∧ entry.1 ∉ fields.map Field.name)
      (reordered : all.Perm (("type", .string tag) :: (entries fields given ++ further))) :
      IsVariant tag fields (.object all)
  | array {items : List Json} {left : Nat}
      (present : List.Forall₂ Field.Given fields (items.map some ++ List.replicate left none)) :
      IsVariant tag fields (.array (.string tag :: items))

section Canonical

variable (fields : List Field)

def canonicalEntries : List (String × Json) := fields.map fun field => (field.name, field.format.canonical)

theorem given_canonical : List.Forall₂ Field.Given fields (fields.map fun field => some field.format.canonical) := by
  induction fields with
  | nil => exact .nil
  | cons field rest ih => exact .cons field.format.sound ih

theorem entries_canonical :
    entries fields (fields.map fun field => some field.format.canonical) = canonicalEntries fields := by
  induction fields with
  | nil => rfl
  | cons field rest ih => exact congrArg _ ih

end Canonical

namespace Format

def only (json : Json) : Format := ⟨json, (· = json), rfl⟩

def text (value : String) : Format := only (.string value)

def list (items : List Format) : Format where
  canonical := .array (items.map canonical)
  Admits json := ∃ values, json = .array values ∧ List.Forall₂ Admits items values
  sound := by
    refine ⟨_, rfl, ?_⟩
    induction items with
    | nil => exact .nil
    | cons item rest ih => exact .cons item.sound ih

def record (fields : List Field) : Format where
  canonical := .object (canonicalEntries fields)
  Admits := IsRecord fields
  sound := .object (given_canonical fields) (List.forall_mem_nil _) (by rw [entries_canonical, List.append_nil])

def variant (tag : String) (fields : List Field) : Format where
  canonical := .object (("type", .string tag) :: canonicalEntries fields)
  Admits := IsVariant tag fields
  sound := .object (given_canonical fields) (List.forall_mem_nil _) (by rw [entries_canonical, List.append_nil])

end Format

namespace Field

def required (name : String) (format : Format) : Field := ⟨name, format, false⟩

def text (name value : String) : Field := required name (.text value)

def optional (name : String) (format : Option Format) : Field := ⟨name, format.getD (.only .null), format.isNone⟩

def list (name : String) (items : List Format) : Field := ⟨name, .list items, items.isEmpty⟩

end Field

theorem depthOfItems_le_iff {items : List Json} {n : Nat} :
    depthOfItems items ≤ n ↔ ∀ item ∈ items, item.depth ≤ n := by
  induction items with
  | nil => simp [depthOfItems]
  | cons item rest ih => simp only [depthOfItems, Nat.max_le, ih, List.forall_mem_cons]

theorem depthOfFields_le_iff {fields : List (String × Json)} {n : Nat} :
    depthOfFields fields ≤ n ↔ ∀ entry ∈ fields, entry.2.depth ≤ n := by
  induction fields with
  | nil => simp [depthOfFields]
  | cons entry rest ih => simp only [depthOfFields, Nat.max_le, ih, List.forall_mem_cons]

theorem entries_cons {field : Field} {fields : List Field} {found : Option Json} {given : List (Option Json)} :
    entries (field :: fields) (found :: given) = field.entry found ++ entries fields given := rfl

theorem name_of_mem_entry {field : Field} {found : Option Json} {entry : String × Json}
    (mem : entry ∈ field.entry found) : entry.1 = field.name := by
  obtain ⟨value, -, rfl⟩ := Option.map_eq_some_iff.mp (Option.mem_toList.mp mem)
  rfl

theorem name_of_mem_entries {fields : List Field} {given : List (Option Json)} {entry : String × Json}
    (mem : entry ∈ entries fields given) : entry.1 ∈ fields.map Field.name := by
  induction fields generalizing given with
  | nil => simp [entries] at mem
  | cons field rest ih =>
    cases given with
    | nil => simp [entries] at mem
    | cons found given =>
      rw [entries_cons, List.mem_append] at mem
      rw [List.map_cons, List.mem_cons]
      exact mem.imp name_of_mem_entry ih

theorem filter_entry (field : Field) (found : Option Json) :
    (field.entry found).filter (·.1 = field.name) = field.entry found :=
  List.filter_eq_self.mpr fun _ mem => decide_eq_true (name_of_mem_entry mem)

theorem filter_eq_nil_of_name {all : List (String × Json)} {name : String} (absent : ∀ entry ∈ all, entry.1 ≠ name) :
    all.filter (·.1 = name) = [] :=
  List.filter_eq_nil_iff.mpr fun entry mem same => absent entry mem (of_decide_eq_true same)

/-- With names that are apart, each field is found as it was given. -/
theorem filter_entries {fields : List Field} {given : List (Option Json)}
    (present : List.Forall₂ Field.Given fields given) (distinct : (fields.map Field.name).Nodup) :
    List.Forall₂ (fun field found => (entries fields given).filter (·.1 = field.name) = field.entry found)
      fields given := by
  induction present with
  | nil => exact .nil
  | @cons field found fields given _ _ ih =>
    obtain ⟨fresh, distinct⟩ := List.nodup_cons.mp distinct
    refine .cons ?_ (((List.forall₂_and_left _ _).mpr ⟨fun _ => id, ih distinct⟩).imp fun other _ ⟨mem, same⟩ => ?_)
    · have others : (entries fields given).filter (·.1 = field.name) = [] :=
        filter_eq_nil_of_name fun entry later same => fresh (same ▸ name_of_mem_entries later)
      rw [entries_cons, List.filter_append, filter_entry, others, List.append_nil]
    · -- The first field has a name that none of the others has, and so adds nothing to what is found of them.
      have apart : (field.entry found).filter (·.1 = other.name) = [] := by
        refine filter_eq_nil_of_name fun entry first same => fresh ?_
        rw [← name_of_mem_entry first, same]
        exact List.mem_map_of_mem mem
      rw [entries_cons, List.filter_append, apart, List.nil_append, same]

/-- Neither the order of an object's fields nor further ones change what is found. -/
theorem filter_object {fields : List Field} {given : List (Option Json)} {further all : List (String × Json)}
    (present : List.Forall₂ Field.Given fields given) (distinct : (fields.map Field.name).Nodup)
    (undeclared : ∀ entry ∈ further, entry.1 ∉ fields.map Field.name)
    (reordered : all.Perm (entries fields given ++ further)) :
    List.Forall₂ (fun field found => all.filter (·.1 = field.name) = field.entry found) fields given := by
  refine ((List.forall₂_and_left _ _).mpr ⟨fun _ => id, filter_entries present distinct⟩).imp ?_
  rintro field found ⟨mem, same⟩
  have none_further : further.filter (·.1 = field.name) = [] :=
    filter_eq_nil_of_name fun entry more same => undeclared entry more (same ▸ List.mem_map_of_mem mem)
  have all_found := reordered.filter (·.1 = field.name)
  -- One entry at most is left, so its order does not matter.
  rw [List.filter_append, same, none_further, List.append_nil] at all_found
  cases found with
  | none => exact List.perm_nil.mp all_found
  | some value => exact List.perm_singleton.mp all_found

def Field.Within (bound : Nat) (field : Field) (given : Option Json) : Prop :=
  (∀ value ∈ given, value.depth ≤ bound) ∧ field.Given given

variable {fields : List Field} {names : List String} {json : Json}

/-- A record in any of its forms is read as its fields. -/
theorem IsRecord.record? (written : IsRecord fields json) {bound : Nat} (shallow : json.depth ≤ bound)
    (declared : fields.map Field.name = names) (distinct : names.Nodup) :
    ∃ given, json.record? names = some given ∧ List.Forall₂ (Field.Within (bound - 1)) fields given := by
  subst declared
  cases written with
  | @object given further all present undeclared reordered =>
    have found := filter_object present distinct undeclared reordered
    refine ⟨given, ?_, found.mp ?_ present⟩
    · simp only [Json.record?]
      refine mapM_eq_some_iff.mpr (List.forall₂_map_left_iff.mpr (found.imp fun field found same => ?_))
      cases found <;> simp [same, Field.entry]
    · intro field found same admitted
      refine ⟨fun value mem => ?_, admitted⟩
      have member : (field.name, value) ∈ all := List.mem_of_mem_filter (by
        rw [same]
        exact Option.mem_toList.mpr (Option.map_eq_some_iff.mpr ⟨value, mem, rfl⟩))
      exact depthOfFields_le_iff.mp (Nat.le_sub_one_of_lt shallow) _ member
  | @array items left present =>
    have length := present.length_eq
    rw [List.length_append, List.length_map, List.length_replicate] at length
    refine ⟨items.map some ++ List.replicate left none, ?_, ?_⟩
    · simp only [Json.record?]
      rw [List.length_map, length, if_pos (Nat.le_add_right _ _), Nat.add_sub_cancel_left]
    · have low : ∀ found ∈ items.map some ++ List.replicate left none, ∀ value ∈ found,
          value.depth ≤ bound - 1 := by
        rintro _ mem value rfl
        have member : value ∈ items := by simpa using mem
        exact depthOfItems_le_iff.mp (Nat.le_sub_one_of_lt shallow) value member
      exact ((List.forall₂_and_left _ _).mpr ⟨low, present.flip⟩).flip

/-- A variant in any of its forms is read as its tag, with a form of its record. -/
theorem IsVariant.variant? {tag : String} (written : IsVariant tag fields json) {inner : Bool} {variants : List String}
    (listed : tag ∈ variants) (free : "type" ∉ fields.map Field.name) :
    ∃ body, json.variant? inner variants = some (tag, body) ∧ IsRecord fields body ∧ body.depth ≤ json.depth := by
  have named : tag? inner variants (.string tag) = some tag := if_pos (List.contains_iff_mem.mpr listed)
  cases written with
  | @object given further all present undeclared reordered =>
    have untagged : ∀ entry ∈ entries fields given ++ further, entry.1 ≠ "type" := by
      intro entry mem same
      rcases List.mem_append.mp mem with declared | more
      · exact free (same ▸ name_of_mem_entries declared)
      · exact (undeclared entry more).1 same
    have tagged : all.filter (·.1 = "type") = [("type", .string tag)] := by
      have none_else : (entries fields given ++ further).filter (·.1 = "type") = [] := filter_eq_nil_of_name untagged
      have found := reordered.filter (·.1 = "type")
      rw [List.filter_cons_of_pos (by simp), none_else] at found
      exact List.perm_singleton.mp found
    have rest : (all.filter (·.1 ≠ "type")).Perm (entries fields given ++ further) := by
      have all_else : (entries fields given ++ further).filter (·.1 ≠ "type") = entries fields given ++ further :=
        List.filter_eq_self.mpr fun entry mem => decide_eq_true (untagged entry mem)
      have found := reordered.filter (·.1 ≠ "type")
      rwa [List.filter_cons_of_neg (by simp), all_else] at found
    have undeclared : ∀ entry ∈ further, entry.1 ∉ fields.map Field.name := fun entry more => (undeclared entry more).2
    refine ⟨.object (all.filter (·.1 ≠ "type")), ?_, .object present undeclared rest, ?_⟩
    · simp only [Json.variant?, tagged, named, Option.map_some]
    · exact Nat.succ_le_succ (depthOfFields_le_iff.mpr fun entry mem =>
        depthOfFields_le_iff.mp (Nat.le_refl _) entry (List.mem_of_mem_filter mem))
  | @array items left present =>
    refine ⟨.array items, ?_, .array present, Nat.succ_le_succ (Nat.le_max_right _ _)⟩
    simp only [Json.variant?, named, Option.map_some]

theorem IsRecord.depth_pos (written : IsRecord fields json) : 0 < json.depth := by
  cases written <;> exact Nat.succ_pos _

theorem IsVariant.depth_pos {tag : String} (written : IsVariant tag fields json) : 0 < json.depth := by
  cases written <;> exact Nat.succ_pos _

/-- A reader finds a value in all of its forms up to a depth. -/
def Format.Reads {α : Type} (format : Format) (bound : Nat) (read : Json → Option α) (value : α) : Prop :=
  ∀ json, format.Admits json → json.depth ≤ bound → read json = some value

def Field.Reads {α : Type} (field : Field) (bound : Nat) (read : Option Json → Option α) (value : α) : Prop :=
  ∀ given, field.Within bound given → read given = some value

namespace Format

variable {α : Type} {bound : Nat} {read : Json → Option α} {value : α}

theorem text_reads (bound : Nat) (value : String) : (text value).Reads bound text? value := by
  rintro _ rfl -
  rfl

theorem Reads.required {format : Format} (reads : format.Reads bound read value) (name : String) :
    (Field.required name format).Reads bound (Json.required read) value
  | none, ⟨_, missing⟩ => nomatch missing
  | some json, ⟨shallow, admitted⟩ => reads json admitted (shallow json rfl)

theorem reads_text (bound : Nat) (name value : String) :
    (Field.text name value).Reads bound (Json.required text?) value :=
  (text_reads bound value).required name

theorem reads_option {format : Option Format} {value : Option α} (name : String) (absent : read .null = none)
    (reads : Option.Rel (fun format item => format.Reads bound read item) format value) :
    (Field.optional name format).Reads bound (Json.optional read) value := by
  rintro given ⟨shallow, present⟩
  cases reads with
  | none =>
    cases given with
    | none => rfl
    | some json =>
      obtain rfl : json = .null := present
      rfl
  | @some _ item reads =>
    cases given with
    | none => nomatch present
    | some json =>
      have found : read json = some item := reads json present (shallow json rfl)
      -- Null stands for nothing, and is no form of the item because it is not read.
      cases json <;> simp_all [Json.optional]

theorem reads_optional {format : α → Format} {value : Option α} (name : String) (absent : read .null = none)
    (reads : ∀ item ∈ value, (format item).Reads bound read item) :
    (Field.optional name (value.map format)).Reads bound (Json.optional read) value := by
  refine reads_option name absent ?_
  cases value with
  | none => exact .none
  | some item => exact .some (reads item rfl)

theorem list_reads {format : α → Format} {values : List α}
    (reads : ∀ item ∈ values, (format item).Reads bound read item) :
    (Format.list (values.map format)).Reads bound (Json.list read) values := by
  rintro _ ⟨items, rfl, admitted⟩ shallow
  have low : ∀ item ∈ items, item.depth ≤ bound := depthOfItems_le_iff.mp (Nat.le_of_succ_le shallow)
  have forms := (List.forall₂_and_left _ _).mpr ⟨reads, List.forall₂_map_left_iff.mp admitted⟩
  refine mapM_eq_some_iff.mpr (((List.forall₂_and_left _ _).mpr ⟨low, forms.flip⟩).imp ?_)
  rintro json item ⟨shallow, reads, admitted⟩
  exact reads json admitted shallow

theorem reads_list {format : α → Format} {values : List α} (name : String)
    (reads : ∀ item ∈ values, (format item).Reads bound read item) :
    (Field.list name (values.map format)).Reads bound (defaultList read) values
  | none, ⟨_, missing⟩ => by
    obtain rfl : values = [] := List.map_eq_nil_iff.mp (List.isEmpty_iff.mp missing)
    rfl
  | some json, ⟨shallow, admitted⟩ => list_reads reads json admitted (shallow json rfl)

/-- A record is read if each of its fields is. -/
theorem record_reads {fields : List Field} (names : List String) (declared : fields.map Field.name = names)
    (distinct : names.Nodup)
    (body : ∀ json given, json.record? names = some given →
      List.Forall₂ (Field.Within (bound - 1)) fields given → read json = some value) :
    (record fields).Reads bound read value := by
  intro json written shallow
  obtain ⟨given, same, present⟩ := IsRecord.record? written shallow declared distinct
  exact body json given same present

/-- A variant is read if the record without its tag is. -/
theorem variant_reads {fields : List Field} {tag : String} (inner : Bool) (variants names : List String)
    (declared : fields.map Field.name = names) (free : "type" ∉ names) (listed : tag ∈ variants)
    (body : ∀ json body, json.variant? inner variants = some (tag, body) → (record fields).Admits body →
      body.depth ≤ bound → read json = some value) :
    (variant tag fields).Reads bound read value := by
  intro json written shallow
  obtain ⟨inside, same, admitted, low⟩ := IsVariant.variant? written listed (declared ▸ free)
  exact body json inside same admitted (Nat.le_trans low shallow)

/-- A variant is read if each of its fields is. -/
theorem variant_fields_reads {fields : List Field} {tag : String} (inner : Bool) (variants names : List String)
    (declared : fields.map Field.name = names) (distinct : ("type" :: names).Nodup) (listed : tag ∈ variants)
    (body : ∀ json body given, json.variant? inner variants = some (tag, body) → body.record? names = some given →
      List.Forall₂ (Field.Within (bound - 1)) fields given → read json = some value) :
    (variant tag fields).Reads bound read value := by
  obtain ⟨free, distinct⟩ := List.nodup_cons.mp distinct
  refine variant_reads inner variants names declared free listed fun json inside same admitted shallow => ?_
  obtain ⟨given, found, present⟩ := IsRecord.record? admitted shallow declared distinct
  exact body json inside given same found present

end Format

end ShaderCheck.Json
