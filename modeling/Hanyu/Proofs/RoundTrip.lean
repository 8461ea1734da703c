import Hanyu.Sorting
import Hanyu.Token.Written
import Mathlib.Data.List.Nodup

/-!
# Tokens are read as they were written

A batch that is written in JSON is read again as the same batch, and so is a token, whatever is
missing in it. Whoever keeps a JSON value may put the entries of its objects into another order, as
a store that sorts them by their names does; this changes nothing.

* `Json.arrange`: a value with the entries of all its objects in another order.
* `Json.lookup_perm`: where no name is repeated, the order of entries does not matter.
* `Token.read?_arrange`, `Batch.read?_arrange`: so reading what was written gives it back. For this
  no field is written twice, and what is left out is what is read when it is missing.
* `Batch.read?_write`: the same without a change of order, and with one.
-/

namespace Hanyu

namespace Json

/-! ## Entries in another order -/

/-- A way of putting entries into another order. -/
abbrev Arrangement := List (Text × Json) → List (Text × Json)

mutual

/-- The value with the entries of all its objects, the inner ones first, in another order. -/
def arrange (order : Arrangement) : Json → Json
  | null => null
  | boolean value => boolean value
  | number value => number value
  | string text => string text
  | array items => array (arrangeItems order items)
  | object entries => object (order (arrangeEntries order entries))

/-- The items of an array, each arranged. -/
def arrangeItems (order : Arrangement) : List Json → List Json
  | [] => []
  | item :: items => arrange order item :: arrangeItems order items

/-- The entries of an object, each arranged, in the order in which they are. -/
def arrangeEntries (order : Arrangement) : List (Text × Json) → List (Text × Json)
  | [] => []
  | (key, value) :: entries => (key, arrange order value) :: arrangeEntries order entries

end

/-- Nothing is added to the entries, and nothing is taken away. -/
def Arrangement.IsFair (order : Arrangement) : Prop := ∀ entries, (order entries).Perm entries

theorem arrangeItems_eq_map (order : Arrangement) (items : List Json) :
    arrangeItems order items = items.map (arrange order) := by
  induction items with
  | nil => rw [arrangeItems, List.map_nil]
  | cons item items ih => rw [arrangeItems, ih, List.map_cons]

theorem map_fst_arrangeEntries (order : Arrangement) (entries : List (Text × Json)) :
    (arrangeEntries order entries).map Prod.fst = entries.map Prod.fst := by
  induction entries with
  | nil => rw [arrangeEntries]
  | cons entry entries ih =>
    obtain ⟨key, value⟩ := entry
    rw [arrangeEntries, List.map_cons, List.map_cons, ih]

theorem lookup_arrangeEntries (order : Arrangement) (entries : List (Text × Json)) (key : Text) :
    (arrangeEntries order entries).lookup key = (entries.lookup key).map (arrange order) := by
  induction entries with
  | nil => rw [arrangeEntries]; rfl
  | cons entry entries ih =>
    obtain ⟨name, value⟩ := entry
    rw [arrangeEntries, List.lookup_cons, List.lookup_cons]
    cases key == name with
    | true => rfl
    | false => exact ih

theorem lookup_eq_some_iff_mem {entries : List (Text × Json)} (hn : (entries.map Prod.fst).Nodup)
    {key : Text} {value : Json} : entries.lookup key = some value ↔ (key, value) ∈ entries := by
  rw [List.lookup_eq_some_iff]
  constructor
  · rintro ⟨before, after, rfl, -⟩
    exact List.mem_append_right _ List.mem_cons_self
  · intro hm
    obtain ⟨before, after, rfl⟩ := List.append_of_mem hm
    refine ⟨before, after, rfl, fun entry he => ?_⟩
    rw [List.map_append, List.map_cons] at hn
    have hne : key ≠ entry.1 := fun hk =>
      List.disjoint_of_nodup_append hn (List.mem_map_of_mem he) (hk ▸ List.mem_cons_self)
    exact bne_iff_ne.mpr hne

/-- Where no name is repeated, the order of entries does not matter. -/
theorem lookup_perm {entries entries' : List (Text × Json)} (h : entries'.Perm entries)
    (hn : (entries.map Prod.fst).Nodup) (key : Text) :
    entries'.lookup key = entries.lookup key := by
  have hn' : (entries'.map Prod.fst).Nodup := (h.map Prod.fst).nodup_iff.mpr hn
  ext value
  rw [lookup_eq_some_iff_mem hn, lookup_eq_some_iff_mem hn', h.mem_iff]

theorem lookup_arranged {order : Arrangement} (h : order.IsFair) {entries : List (Text × Json)}
    (hn : (entries.map Prod.fst).Nodup) (key : Text) :
    (order (arrangeEntries order entries)).lookup key = (entries.lookup key).map (arrange order) := by
  rw [lookup_perm (h _) (by rwa [map_fst_arrangeEntries]), lookup_arrangeEntries]

/-! ## Values without objects -/

section Plain

variable (order : Arrangement)

@[simp] theorem arrange_boolean (value : Bool) : arrange order (boolean value) = boolean value := rfl

@[simp] theorem arrange_string (text : Text) : arrange order (string text) = string text := rfl

@[simp] theorem arrange_texts (list : List Text) : arrange order (texts list) = texts list := by
  rw [texts, arrange, arrangeItems_eq_map, List.map_map]
  rfl

@[simp] theorem arrange_tables (tables : List (List Text)) :
    arrange order (array (tables.map texts)) = array (tables.map texts) := by
  rw [arrange, arrangeItems_eq_map, List.map_map]
  exact congrArg array (List.map_congr_left fun table _ => arrange_texts order table)

@[simp] theorem arrange_nullable_byte (value : Option UInt8) :
    arrange order (nullable byte value) = nullable byte value := by
  cases value <;> rfl

end Plain

/-! ## Reading without a change of order -/

mutual

theorem arrange_id (value : Json) : arrange id value = value := by
  cases value with
  | null => rfl
  | boolean value => rfl
  | number value => rfl
  | string text => rfl
  | array items => rw [arrange, arrangeItems_id items]
  | object entries => rw [arrange, arrangeEntries_id entries, id]

theorem arrangeItems_id (items : List Json) : arrangeItems id items = items := by
  cases items with
  | nil => rfl
  | cons item items => rw [arrangeItems, arrange_id item, arrangeItems_id items]

theorem arrangeEntries_id (entries : List (Text × Json)) : arrangeEntries id entries = entries := by
  cases entries with
  | nil => rfl
  | cons entry entries =>
    obtain ⟨key, value⟩ := entry
    rw [arrangeEntries, arrange_id value, arrangeEntries_id entries]

end

end Json

open Json

variable {order : Arrangement}

/-! ## Readings, tokens and batches -/

theorem Reading.nodup_kind_writeFields (kind : Json) (reading : Reading) :
    ((Json.field "kind" kind :: reading.writeFields).map Prod.fst).Nodup := by
  simp only [writeFields, Json.field, List.map_cons, List.map_nil]
  decide

theorem Reading.ofFields?_arrange (h : order.IsFair) (kind : Json) (reading : Reading) :
    Reading.ofFields? (.named (order (arrangeEntries order
      (Json.field "kind" kind :: reading.writeFields)))) = some reading := by
  simp only [Reading.ofFields?, Fields.required?, Fields.optional?, Fields.get?_named,
    lookup_arranged h (nodup_kind_writeFields kind reading)]
  simp [writeFields, Json.field, List.lookup_cons, list?_array_map list?_texts]

theorem Details.read?_arrange (h : order.IsFair) (details : Details) :
    Details.read? (details.write.arrange order) = some details := by
  cases details with
  | generic =>
    have hk : (order (arrangeEntries order [Json.field "kind" (.string "generic".toList)])).lookup
        "kind".toList = some (.string "generic".toList) := by
      rw [lookup_arranged h (by decide)]
      rfl
    rw [Details.write, arrange, Details.read?, hk]
    rfl
  | chinese reading =>
    have hk : (order (arrangeEntries order (Json.field "kind" (.string "zh".toList) ::
        reading.writeFields))).lookup "kind".toList = some (.string "zh".toList) := by
      rw [lookup_arranged h (reading.nodup_kind_writeFields _)]
      rfl
    have hr := Reading.ofFields?_arrange h (.string "zh".toList) reading
    rw [Details.write, arrange, Details.read?, hk]
    exact congrArg (Option.map chinese) hr

theorem Token.read?_arrange (h : order.IsFair) (token : Token) :
    Token.read? (token.write.arrange order) = some token := by
  obtain ⟨surface, isLexical, romanization, tag, details⟩ := token
  have hn : (([Json.field "surface" (.string surface), Json.field "is_lexical" (.boolean isLexical),
      Json.field "romanization" (.string romanization)] ++
        (tag.map fun tag => Json.field "pos" (.string tag)).toList ++
          [Json.field "ext" details.write]).map Prod.fst).Nodup := by
    cases tag <;> simp only [Json.field, Option.map_none, Option.map_some, Option.toList_none,
      Option.toList_some, List.map_append, List.map_cons, List.map_nil] <;> decide
  simp only [Token.write, arrange, Token.read?, fields?, Fields.required?, Fields.optional?,
    Fields.get?_named, Option.bind_eq_bind, Option.bind_some, lookup_arranged h hn]
  -- A tag that is missing is left out, and read as missing.
  cases tag with
  | none => simp [Json.field, List.lookup_cons, Details.read?_arrange h]
  | some tag => simp [Json.field, List.lookup_cons, Details.read?_arrange h, nullable?]

theorem Batch.read?_arrange (h : order.IsFair) (batch : Batch) :
    Batch.read? (batch.write.arrange order) = some batch := by
  obtain ⟨raw, tokens⟩ := batch
  have hn : (((if raw.isEmpty then [] else [Json.field "raw" (.texts raw)]) ++
      [Json.field "tokens" (.array (tokens.map Token.write))]).map Prod.fst).Nodup := by
    cases raw <;> simp only [Json.field, List.isEmpty_nil, List.isEmpty_cons, if_true,
      Bool.false_eq_true, if_false, List.nil_append, List.cons_append, List.map_cons,
        List.map_nil] <;> decide
  have ht : list? Token.read? (arrange order (.array (tokens.map Token.write))) = some tokens := by
    rw [arrange, arrangeItems_eq_map, List.map_map]
    exact list?_array_map (Token.read?_arrange h) tokens
  simp only [Batch.write, arrange, Batch.read?, fields?, Fields.required?, Fields.optional?,
    Fields.get?_named, Option.bind_eq_bind, Option.bind_some, lookup_arranged h hn]
  cases raw with
  | nil => simp [Json.field, List.lookup_cons, ht]
  | cons chunk raw => simp [Json.field, List.lookup_cons, ht]

/-- **What is written is read again.** Every batch and every token is read from its JSON value as it
was, whatever it holds and whatever is missing in it, also when the entries of objects have been put
into another order meanwhile. -/
theorem Batch.read?_write (batch : Batch) (token : Token) :
    Batch.read? batch.write = some batch ∧ Token.read? token.write = some token ∧
      ∀ order : Arrangement, order.IsFair →
        Batch.read? (batch.write.arrange order) = some batch ∧
          Token.read? (token.write.arrange order) = some token := by
  have hid : Arrangement.IsFair id := List.Perm.refl
  refine ⟨?_, ?_, fun order h => ⟨batch.read?_arrange h, token.read?_arrange h⟩⟩
  · rw [← batch.read?_arrange hid, arrange_id]
  · rw [← token.read?_arrange hid, arrange_id]

/-- A store that sorts entries by their names, and a batch with a raw chunk, a tone that no syllable
has and another one that is missing. -/
theorem Batch.read?_write_sorted :
    let order : Arrangement := sortBy fun a b => Text.notAfter a.1 b.1
    let reading : Reading := ⟨[], ['3'], [[], [['a'], []]], [], some 255, none, true⟩
    let token : Token := ⟨['好'], true, [], some [], .chinese reading⟩
    let batch : Batch := ⟨[[]], [token, .filler ['，']]⟩
    order.IsFair ∧
      (∃ entries, token.write.arrange order = .object entries ∧ entries.map Prod.fst =
        ["ext".toList, "is_lexical".toList, "pos".toList, "romanization".toList,
          "surface".toList]) ∧
      Batch.read? (batch.write.arrange order) = some batch ∧
        Token.read? (token.write.arrange order) = some token := by
  intro order reading token batch
  have hfair : order.IsFair := sortBy_perm _
  obtain ⟨-, -, harranged⟩ := Batch.read?_write batch token
  exact ⟨hfair, ⟨_, rfl, by decide⟩, harranged order hfair⟩

end Hanyu
