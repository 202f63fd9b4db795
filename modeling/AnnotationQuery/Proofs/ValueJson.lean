import Mathlib.Data.List.Forall2
import AnnotationQuery.Proofs.JsonText
import AnnotationQuery.Proofs.Resolution
import AnnotationQuery.Value.Json

/-!
# Values read back from JSON

The JSON of a value is an object, and that of a list holds an array with the objects of its items,
so each list around a value nests it by two. Reading stops at a fixed depth, writing does not. Null,
strings, integers and lists come back as they are; a float comes back if the number that it is
written as does, and a float that is not finite is written as null, which is no float.

* `Json.depth`: how deep arrays and objects are nested.
* `Decoder.listFrom_eq_ok`: when a list is decoded.
* `Value.decode_json`: a value is decoded as it was written.
* `Value.fits_of_decode`: only what is not nested too deep and has finite floats is decoded.
-/

namespace AnnotationQuery

/-! ## Nesting -/

namespace Json

mutual

/-- How many arrays and objects are nested in one another. -/
def depth : Json → Nat
  | array items => depthItems items + 1
  | object members => depthMembers members + 1
  | _ => 0

/-- The greatest depth of the items of an array. -/
def depthItems : List Json → Nat
  | [] => 0
  | item :: items => max item.depth (depthItems items)

/-- The greatest depth of the values of an object. -/
def depthMembers : List (String × Json) → Nat
  | [] => 0
  | (_, value) :: members => max value.depth (depthMembers members)

end

theorem sourceItems_eq_map (items : List Json) : sourceItems items = items.map source := by
  induction items with
  | nil => rfl
  | cons item items ih => simp [sourceItems, ih]

theorem depthItems_le {items : List Json} {n : Nat} :
    depthItems items ≤ n ↔ ∀ item ∈ items, item.depth ≤ n := by
  induction items with
  | nil => simp [depthItems]
  | cons item items ih => simp [depthItems, ih]

theorem depth_ofList_le {α : Type} {encode : α → Json} {items : List α} {n : Nat} :
    (ofList encode items).depth ≤ n + 1 ↔ ∀ a ∈ items, (encode a).depth ≤ n := by
  simp [ofList, depth, depthItems_le]

end Json

/-! ## Decoding lists -/

namespace Decoder

theorem within_eq_ok {α : Type} {segment : Segment} {result : Except Location α} {a : α} :
    within segment result = .ok a ↔ result = .ok a :=
  mapError_eq_ok

theorem listFrom_eq_ok {α : Type} {decode : Source → Except Location α} {closed : Bool} {i : Nat}
    {items : List Source} {as : List α} :
    listFrom decode closed i items = .ok as ↔
      closed = true ∧ List.Forall₂ (fun item a => decode item = .ok a) items as := by
  induction items generalizing i as with
  | nil => cases closed <;> simp [listFrom, eq_comm]
  | cons item items ih =>
    simp only [listFrom, bind_eq_ok, pure_eq_ok, within_eq_ok, ih, List.forall₂_cons_left_iff]
    grind

end Decoder

/-! ## Values -/

/-- The number that a float is written as in JSON reads back as the float. -/
def Binary64.Rereads (x : Binary64) : Prop :=
  Decoder.wholeText? (Decoder.number Numeral.binary64?) (Json.ofFloat x).compactText = some x

namespace Value

open Decoder

mutual

/-- The floats of a value at every depth. -/
def floats : Value → List Binary64
  | float x => [x]
  | list items => floatsAll items
  | _ => []

/-- The floats of the items of a list. -/
def floatsAll : List Value → List Binary64
  | [] => []
  | item :: items => item.floats ++ floatsAll items

end

theorem floatsAll_eq_flatMap (items : List Value) : floatsAll items = items.flatMap floats := by
  induction items with
  | nil => rfl
  | cons item items ih => simp [floatsAll, ih]

theorem depth_taggedJson (name : String) (content : Json) :
    (taggedJson name content).depth = content.depth + 1 := by
  simp [taggedJson, Json.depth, Json.depthMembers]

section Members

variable {decodeTag : Source → Except Location Tag}
  {decodeContent : Bool → Tag → Source → Except Location Value}
  {scan : Source → Except Location PUnit}

theorem decodeMembers_type (source : Source) (members : List (Option String × Source)) :
    decodeMembers decodeTag decodeContent scan true .start ((some "@type", source) :: members) =
      within (.key "@type") (decodeTag source) >>= fun tag =>
        decodeMembers decodeTag decodeContent scan true (.tagged tag) members :=
  rfl

theorem decodeMembers_value (tag : Tag) (source : Source) :
    decodeMembers decodeTag decodeContent scan true (.tagged tag) [(some "value", source)] =
      within (.key "value") (decodeContent false tag source) >>= .ok :=
  rfl

end Members

/-- A tagged object is decoded as the content of the type that it names. -/
theorem decodeFrom_tagged {name : String} {tag : Tag} (hname : Tag.names.lookup name = some tag)
    (content : Json) (depth : Nat) :
    decodeFrom false (depth + 1) (taggedJson name content).source =
      within (.key "value") (decodeFrom.content false depth tag content.source) := by
  have htag : decodeFrom.tag false depth (.string (some name)) = .ok tag := by
    simp [decodeFrom.tag, choice, hname]
  have hmembers : (taggedJson name content).source =
      .object [(some "@type", .string (some name)), (some "value", content.source)] true := by
    simp [taggedJson, Json.source, Json.sourceMembers]
  rw [hmembers]
  unfold decodeFrom
  rw [decodeMembers_type, htag]
  show decodeMembers _ _ _ true (.tagged tag) _ = _
  rw [decodeMembers_value, Bool.or_self]
  cases within (.key "value") (decodeFrom.content false depth tag content.source) <;> rfl

theorem rereads_iff {x : Binary64} (depth : Nat) :
    x.Rereads ↔ Decoder.number Numeral.binary64? depth (Json.ofFloat x).source = .ok x := by
  have hnumber : ∀ source : Source, Decoder.number Numeral.binary64? nesting source =
      Decoder.number Numeral.binary64? depth source := fun source => by cases source <;> rfl
  unfold Binary64.Rereads wholeText? Json.compactText
  rw [(Json.spells_compactChars _).ofWholeText?, Option.bind_some, hnumber]
  cases Decoder.number Numeral.binary64? depth (Json.ofFloat x).source <;> simp [Except.toOption]

theorem depth_json_pos (v : Value) : 0 < v.json.depth := by
  cases v <;> simp [json, taggedJson, Json.depth]

theorem decodeFrom_zero (source : Source) : decodeFrom false 0 source = .error [] := by
  cases source <;> rfl

theorem depth_json_list (items : List Value) :
    (list items).json.depth = Json.depthItems (jsonAll items) + 2 := by
  rw [json, depth_taggedJson, Json.depth]

theorem decodeFrom_list (depth : Nat) (items : List Value) :
    decodeFrom false (depth + 2) (list items).json.source =
      within (.key "value") ((listFrom (decodeFrom false depth) true 0
        (items.map fun item => item.json.source)).map list) := by
  rw [json, decodeFrom_tagged rfl, Json.source, decodeFrom.content, Json.sourceItems_eq_map,
    jsonAll_eq_map, List.map_map]
  rfl

theorem map_list_eq_ok {result : Except Location (List Value)} {v : Value} :
    result.map list = .ok v ↔ ∃ items, result = .ok items ∧ list items = v := by
  cases result <;> simp [Except.map]

/-- A value is decoded from its JSON, if that is not nested too deep and its floats read back. -/
theorem decode_json (v : Value) {depth : Nat} (hdepth : v.json.depth ≤ depth)
    (hfloats : ∀ x ∈ v.floats, x.Rereads) : decodeFrom false depth v.json.source = .ok v := by
  have hpos := v.depth_json_pos
  obtain ⟨depth, rfl⟩ : ∃ n, depth = n + 1 := ⟨depth - 1, by omega⟩
  match v with
  | .null => rfl
  | .string s =>
    rw [json, decodeFrom_tagged rfl, decodeFrom.content]
    rfl
  | .bool b =>
    rw [json, decodeFrom_tagged rfl, decodeFrom.content]
    rfl
  | .int n =>
    have hn : Decoder.number Numeral.int64? depth (Json.int n.toInt).source = .ok n := by
      simp [Decoder.number, Json.source, Numeral.int64?_ofInt]
    rw [json, decodeFrom_tagged rfl, decodeFrom.content, hn]
    rfl
  | .float x =>
    have hx := (rereads_iff depth).mp (hfloats x (by simp [floats]))
    rw [json, decodeFrom_tagged rfl, decodeFrom.content, hx]
    rfl
  | .list items =>
    rw [depth_json_list, jsonAll_eq_map] at hdepth
    obtain ⟨depth, rfl⟩ : ∃ n, depth = n + 1 := ⟨depth - 1, by omega⟩
    have hitems : ∀ item ∈ items, decodeFrom false depth item.json.source = .ok item := by
      intro item hitem
      refine decode_json item ?_ fun x hx => hfloats x ?_
      · exact Json.depthItems_le.mp (Nat.le_of_add_le_add_right hdepth) _
          (List.mem_map_of_mem hitem)
      · rw [floats, floatsAll_eq_flatMap]
        exact List.mem_flatMap_of_mem hitem hx
    rw [decodeFrom_list, within_eq_ok, map_list_eq_ok]
    refine ⟨items, listFrom_eq_ok.mpr ⟨rfl, ?_⟩, rfl⟩
    rw [List.forall₂_map_left_iff, List.forall₂_same]
    exact hitems

/-- What is decoded was not nested too deep and had no float without a number in JSON. -/
theorem fits_of_decode (v : Value) {depth : Nat} {w : Value}
    (h : decodeFrom false depth v.json.source = .ok w) :
    v.json.depth ≤ depth ∧ ∀ x ∈ v.floats, x.isFinite = true := by
  obtain ⟨depth, rfl⟩ : ∃ n, depth = n + 1 := by
    cases depth with
    | zero =>
      rw [decodeFrom_zero] at h
      cases h
    | succ depth => exact ⟨depth, rfl⟩
  match v with
  | .null => simp [json, Json.depth, Json.depthMembers, floats]
  | .string s => simp [json, depth_taggedJson, Json.depth, floats]
  | .bool b => simp [json, depth_taggedJson, Json.depth, floats]
  | .int n => simp [json, depth_taggedJson, Json.depth, floats]
  | .float (.finite negative m) =>
    simp [json, depth_taggedJson, Json.ofFloat, Json.depth, floats, Binary64.isFinite]
  | .float .nan =>
    rw [json, decodeFrom_tagged rfl, decodeFrom.content] at h
    cases h
  | .float (.infinity negative) =>
    rw [json, decodeFrom_tagged rfl, decodeFrom.content] at h
    cases h
  | .list items =>
    obtain ⟨depth, rfl⟩ : ∃ n, depth = n + 1 := by
      cases depth with
      | zero =>
        rw [json, decodeFrom_tagged rfl, Json.source, decodeFrom.content] at h
        cases h
      | succ depth => exact ⟨depth, rfl⟩
    rw [decodeFrom_list, within_eq_ok, map_list_eq_ok] at h
    obtain ⟨decoded, hdecoded, -⟩ := h
    rw [listFrom_eq_ok, List.forall₂_map_left_iff] at hdecoded
    obtain ⟨-, hdecoded⟩ := hdecoded
    have hitems : ∀ item ∈ items,
        item.json.depth ≤ depth ∧ ∀ x ∈ item.floats, x.isFinite = true := by
      intro item hitem
      obtain ⟨u, -, hu⟩ := exists_right_of_forall₂ hdecoded hitem
      exact fits_of_decode item hu
    refine ⟨?_, fun x hx => ?_⟩
    · rw [depth_json_list, jsonAll_eq_map]
      refine Nat.add_le_add_right (Json.depthItems_le.mpr fun j hj => ?_) 2
      obtain ⟨item, hitem, rfl⟩ := List.mem_map.mp hj
      exact (hitems item hitem).1
    · rw [floats, floatsAll_eq_flatMap] at hx
      obtain ⟨item, hitem, hx⟩ := List.mem_flatMap.mp hx
      exact (hitems item hitem).2 x hx

end Value

end AnnotationQuery
