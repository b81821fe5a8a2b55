import Mathlib.Data.String.Basic
import CosmwasmSimulate.Json

/-!
# The schema-driven message constructor

`contract_vm/analyzer.rs`, which reads a module's exported schema, is not under `src/`. Of it
main.rs reads four maps, modelled as association lists read with `List.lookup` (a `HashMap`
read with `get`), in the order main.rs iterates them: `mapOfBasetype` (an alias type name to the
primitive it stands for), `mapOfStruct` (a struct type name to its members), `mapOfEnum` (a
message group to whether it is a tagged union) and `mapOfMember` (a message group to its
variants, each with its members). The terminal editor (`contract_vm/editor.rs`) is not under
`src/` either: `readline` models it from the spec as the operator's source of lines, so the
operator's whole session is one list of lines, threaded through every function that reads.

`input_message`, `input_type` and `to_json_item` write a call's JSON text by hand, one
operator line per leaf, appending `"name":value,` for each member and, once an object's members
are written, popping one character (`// remove last , character`) before the closing brace.

The reference serialization states what that text should be. `readItems` reads the operator's
lines as the constructor does, into `Item`s (a leaf, left out or not, or a struct expanded one
level), and `referenceMessage` joins the texts of the items kept with `,`.

* `inputMessage_all_omitted`: a single optional field left blank. Nothing is
  written for it, so the pop removes the opening brace and the message is `}`, not `{}`.
* `inputMessage_eq_reference`: where every object with members keeps at least one of them,
  the constructor writes the reference text and reads exactly the lines the reference reads.
  The pop is right exactly when the last thing written ended in a comma.
-/

namespace CosmwasmSimulate

/-! ## The schema and the operator's lines -/

/-- A member of a message variant: its name and the displayed type of its definition. -/
structure Member where
  memberName : String
  memberDef : String
deriving Repr, DecidableEq

structure Analyzer where
  mapOfBasetype : List (String × String)
  mapOfStruct : List (String × List (String × String))
  mapOfEnum : List (String × Bool)
  mapOfMember : List (String × List (String × List Member))
deriving Repr, DecidableEq

/-- Modelled from the spec: `TerminalEditor::readline` (contract_vm/editor.rs is not under
`src/`). The next operator line is appended to the buffer; once the lines run out the buffer
is left as it is, as on an interrupted read. -/
def readline (buf : String) : List String → String × List String
  | [] => (buf, [])
  | line :: lines => (buf ++ line, lines)

/-- `input_with_out_handle`: one operator line, through the editor. -/
def inputWithOutHandle (inputData : String) (input : List String) : String × List String :=
  readline inputData input

@[simp] theorem inputWithOutHandle_nil (buf : String) : inputWithOutHandle buf [] = (buf, []) :=
  rfl

@[simp] theorem inputWithOutHandle_cons (buf line : String) (lines : List String) :
    inputWithOutHandle buf (line :: lines) = (buf ++ line, lines) := rfl

/-- The line a read takes: the next one, or the empty line once they have run out. -/
theorem inputWithOutHandle_eq (buf : String) (input : List String) :
    inputWithOutHandle buf input = (buf ++ input.head?.getD "", input.tail) := by
  cases input <;> simp

/-! ## Rust's string operations -/

/-- `String::pop`: drop the last character, if there is one. -/
def pop (s : String) : String := ⟨s.data.dropLast⟩

/-- `str::replace` with a character pattern. -/
def replace (s : String) (c : Char) (r : String) : String :=
  ⟨s.data.flatMap fun x => if x = c then r.data else [x]⟩

/-- `type_name.strip_suffix('?')`: the type without its optional marker, and whether it had
one. -/
def stripSuffix (typeName : String) : String × Bool :=
  if typeName.data.getLast? = some '?' then (⟨typeName.data.dropLast⟩, true)
  else (typeName, false)

/-! ## The constructor -/

/-- `check_is_need_slash`: only the `string` primitive is quoted (binary is base64 string
input). -/
def checkIsNeedSlash (name : String) : Bool := name == "string"

/-- The value `to_json_item` writes for a line of the primitive `mappedTypeName`: for a string,
quoted after dropping newlines and escaping `"`; otherwise the line as it is. -/
def jsonValue (mappedTypeName data : String) : String :=
  if checkIsNeedSlash mappedTypeName then
    "\"" ++ replace (replace data '\n' "") '"' "\\\"" ++ "\""
  else data

/-- `to_json_item`: one leaf, `"name":value,`, or nothing for an optional leaf left blank. -/
def toJsonItem (a : Analyzer) (name typeName : String) (input : List String) :
    String × List String :=
  let (stripTypeName, optional) := stripSuffix typeName
  let (data, input) := inputWithOutHandle "" input
  if data.isEmpty && optional then ("", input)
  else
    let mappedTypeName := (a.mapOfBasetype.lookup stripTypeName).getD stripTypeName
    ("\"" ++ name ++ "\":" ++ jsonValue mappedTypeName data ++ ",", input)

/-- `for m in members { params.push_str(item(m)) }`: the items written one after another,
each reading its lines after those of the items before it. -/
def pushEach (item : String → String → List String → String × List String) :
    List (String × String) → List String → String × List String
  | [], input => ("", input)
  | (name, typeName) :: ms, input =>
    let (s, input) := item name typeName input
    let (rest, input) := pushEach item ms input
    (s ++ rest, input)

/-- How `input_type` and `input_message` close an object: one character is popped when the
object has members, then `}` is pushed. -/
def closeObject (params : String) (hasMembers : Bool) : String :=
  (if hasMembers then pop params else params).push '\x7d'

/-- `input_type`: one member of a message. A struct of the schema is expanded one level, its
fields written by `to_json_item`; a struct without members takes one raw line; any other type
is a leaf. -/
def inputType (a : Analyzer) (memName typeName : String) (input : List String) :
    String × List String :=
  match a.mapOfStruct.lookup typeName with
  | none => toJsonItem a memName typeName input
  | some fields =>
    let params := "\"" ++ memName ++ "\":"
    if fields.length = 0 then
      let (params, input) := inputWithOutHandle params input
      (params.push ',', input)
    else
      let (items, input) := pushEach (toJsonItem a) fields input
      ((closeObject (params.push '\x7b' ++ items) (0 < fields.length)).push ',', input)

/-- `input_message`: the payload of a call, wrapped as `{"<name>": ...}` for a tagged union. -/
def inputMessage (a : Analyzer) (name : String) (members : List Member) (isEnum : Bool)
    (input : List String) : String × List String :=
  let finalMsg := if isEnum then "\x7b\"" ++ name ++ "\":\x7b" else "\x7b"
  let (items, input) :=
    pushEach (inputType a) (members.map fun m => (m.memberName, m.memberDef)) input
  let finalMsg := closeObject (finalMsg ++ items) (0 < members.length)
  (if isEnum then finalMsg.push '\x7d' else finalMsg, input)

/-! ## The reference serialization -/

/-- A leaf once its line is read: left out, or `"name":text`. -/
inductive Leaf
  | omitted
  | scalar (name text : String)
deriving Repr, DecidableEq

/-- A member of a message once its lines are read: a leaf, or a struct expanded one level. -/
inductive Item
  | leaf (l : Leaf)
  | object (name : String) (fields : List Leaf)
deriving Repr, DecidableEq

def Leaf.text? : Leaf → Option String
  | omitted => none
  | scalar name text => some ("\"" ++ name ++ "\":" ++ text)

/-- Texts separated by `,`. -/
def joinFields : List String → String
  | [] => ""
  | [s] => s
  | s :: ss => s ++ "," ++ joinFields ss

def Item.text? : Item → Option String
  | leaf l => l.text?
  | object name fields =>
    some ("\"" ++ name ++ "\":\x7b" ++ joinFields (fields.filterMap Leaf.text?) ++ "\x7d")

/-- The reference text of a call: the kept items joined by `,` in braces, wrapped as
`{"<name>": ...}` for a tagged union. -/
def referenceMessage (name : String) (isEnum : Bool) (items : List Item) : String :=
  let body := "\x7b" ++ joinFields (items.filterMap Item.text?) ++ "\x7d"
  if isEnum then "\x7b\"" ++ name ++ "\":" ++ body ++ "\x7d" else body

/-- Read one line for each member, in order. -/
def readEach {β : Type} (read : String → String → List String → β × List String) :
    List (String × String) → List String → List β × List String
  | [], input => ([], input)
  | (name, typeName) :: ms, input =>
    let (b, input) := read name typeName input
    let (bs, input) := readEach read ms input
    (b :: bs, input)

/-- A leaf takes one line. It is left out exactly when its type ends in `?` and the line is
empty; otherwise its text is the line's value for the type's primitive. -/
def readLeaf (a : Analyzer) (name typeName : String) (input : List String) :
    Leaf × List String :=
  let base := (stripSuffix typeName).1
  if (stripSuffix typeName).2 ∧ input.headD "" = "" then (.omitted, input.tail)
  else (.scalar name (jsonValue ((a.mapOfBasetype.lookup base).getD base) (input.headD "")),
    input.tail)

/-- A member: a struct with members is read field by field, a struct without members takes one
raw line, and any other type is a leaf. -/
def readItem (a : Analyzer) (name typeName : String) (input : List String) :
    Item × List String :=
  match a.mapOfStruct.lookup typeName with
  | some [] => (.leaf (.scalar name (input.headD "")), input.tail)
  | some fields => let (ls, input) := readEach (readLeaf a) fields input; (.object name ls, input)
  | none => let (l, input) := readLeaf a name typeName input; (.leaf l, input)

def readItems (a : Analyzer) (ms : List (String × String)) (input : List String) :
    List Item × List String :=
  readEach (readItem a) ms input

/-! ## Popping the last comma -/

/-- What the constructor writes for an item: its text and a comma, or nothing. -/
def written : Option String → String
  | none => ""
  | some s => s ++ ","

/-- The items written one after another. -/
def writtenAll {β : Type} (text : β → Option String) : List β → String
  | [] => ""
  | b :: bs => written (text b) ++ writtenAll text bs

theorem pop_append_comma (p : String) : pop (p ++ ",") = p :=
  String.ext List.dropLast_concat

theorem joinFields_cons (s : String) {ss : List String} (h : ss ≠ []) :
    joinFields (s :: ss) = s ++ "," ++ joinFields ss := by
  cases ss with
  | nil => exact absurd rfl h
  | cons _ _ => rfl

theorem writtenAll_of_filterMap_nil {β : Type} {text : β → Option String} :
    ∀ {bs : List β}, bs.filterMap text = [] → writtenAll text bs = ""
  | [], _ => rfl
  | b :: bs, h => by
    cases hb : text b with
    | none =>
      rw [List.filterMap_cons, hb] at h
      simp [writtenAll, hb, written, writtenAll_of_filterMap_nil h]
    | some _ => simp [List.filterMap_cons, hb] at h

/-- Once something is kept, what is written is the kept texts joined by `,`, and one comma. -/
theorem writtenAll_of_filterMap_ne_nil {β : Type} {text : β → Option String} :
    ∀ {bs : List β}, bs.filterMap text ≠ [] →
      writtenAll text bs = joinFields (bs.filterMap text) ++ ","
  | [], h => absurd rfl h
  | b :: bs, h => by
    cases hb : text b with
    | none =>
      rw [List.filterMap_cons, hb] at h ⊢
      simp [writtenAll, hb, written, writtenAll_of_filterMap_ne_nil h]
    | some s =>
      rw [List.filterMap_cons, hb]
      by_cases hbs : bs.filterMap text = []
      · simp [writtenAll, hb, written, hbs, writtenAll_of_filterMap_nil hbs, joinFields]
      · simp only [writtenAll, hb, written, writtenAll_of_filterMap_ne_nil hbs,
          joinFields_cons s hbs, String.append_assoc]

/-- The pop removes the last comma, once something has been kept. -/
theorem closeObject_writtenAll {β : Type} {text : β → Option String} (p : String) {bs : List β}
    (h : bs.filterMap text ≠ []) :
    closeObject (p ++ writtenAll text bs) true = p ++ joinFields (bs.filterMap text) ++ "\x7d" := by
  rw [closeObject, if_pos rfl, writtenAll_of_filterMap_ne_nil h, ← String.append_assoc,
    pop_append_comma]
  rfl

/-! ## The constructor writes the reference text -/

theorem readEach_length {β : Type} (read : String → String → List String → β × List String) :
    ∀ (ms : List (String × String)) (input : List String),
      (readEach read ms input).1.length = ms.length
  | [], _ => rfl
  | (_, _) :: ms, input => by simp [readEach, readEach_length read ms]

/-- `pushEach` writes what is read, item by item, as long as every item read is one the
writer gets right. -/
theorem pushEach_eq_writtenAll {β : Type}
    {item : String → String → List String → String × List String}
    {read : String → String → List String → β × List String} {text : β → Option String}
    {P : β → Prop}
    (h : ∀ name typeName input, P (read name typeName input).1 →
      item name typeName input = (written (text (read name typeName input).1),
        (read name typeName input).2)) :
    ∀ (ms : List (String × String)) (input : List String),
      (∀ b ∈ (readEach read ms input).1, P b) →
      pushEach item ms input =
        (writtenAll text (readEach read ms input).1, (readEach read ms input).2)
  | [], _, _ => rfl
  | (name, typeName) :: ms, input, hP => by
    simp only [readEach, List.mem_cons, forall_eq_or_imp] at hP
    simp only [pushEach, readEach, h name typeName input hP.1,
      pushEach_eq_writtenAll h ms _ hP.2, writtenAll]

theorem toJsonItem_eq (a : Analyzer) (name typeName : String) (input : List String) :
    toJsonItem a name typeName input =
      (written (readLeaf a name typeName input).1.text?, (readLeaf a name typeName input).2) := by
  rcases hs : stripSuffix typeName with ⟨base, optional⟩
  simp only [toJsonItem, readLeaf, hs, inputWithOutHandle_eq, String.empty_append]
  by_cases hc : optional = true ∧ input.headD "" = ""
  · rw [if_pos hc, if_pos (by rw [hc.1, ← List.headD_eq_head?_getD, hc.2]; rfl)]
    rfl
  · rw [if_neg hc, if_neg (by simpa [String.isEmpty_iff, and_comm] using hc)]
    simp [written, Leaf.text?, String.append_assoc]

/-- A struct expanded in a message keeps at least one of its fields. -/
def Item.Filled : Item → Prop
  | leaf _ => True
  | object _ fields => fields.filterMap Leaf.text? ≠ []

/-- Every pop of the constructor removes a comma: the message, if it has members, keeps one
of them, and every struct expanded in it keeps one of its fields. -/
def Filled (items : List Item) : Prop :=
  (items ≠ [] → items.filterMap Item.text? ≠ []) ∧ ∀ it ∈ items, it.Filled

instance : DecidablePred Item.Filled := fun it =>
  match it with
  | .leaf _ => isTrue trivial
  | .object _ fields => inferInstanceAs (Decidable (fields.filterMap Leaf.text? ≠ []))

instance (items : List Item) : Decidable (Filled items) :=
  inferInstanceAs (Decidable (_ ∧ _))

theorem push_comma (s : String) : s.push ',' = s ++ "," := rfl

theorem push_brace (s : String) : s.push '\x7b' = s ++ "\x7b" := rfl

theorem push_close (s : String) : s.push '\x7d' = s ++ "\x7d" := rfl

theorem inputType_eq (a : Analyzer) (name typeName : String) (input : List String)
    (h : (readItem a name typeName input).1.Filled) :
    inputType a name typeName input =
      (written (readItem a name typeName input).1.text?, (readItem a name typeName input).2) := by
  unfold readItem at h
  unfold inputType readItem
  cases hl : a.mapOfStruct.lookup typeName with
  | none => exact toJsonItem_eq a name typeName input
  | some fields =>
    cases fields with
    | nil => simp [hl, inputWithOutHandle_eq, written, Leaf.text?, Item.text?, push_comma]
    | cons f fs =>
      simp only [hl, Item.Filled] at h
      simp only [List.length_cons, Nat.add_one_ne_zero, if_false, Nat.zero_lt_succ,
        decide_True, pushEach_eq_writtenAll (P := fun _ => True)
          (fun n t i _ => toJsonItem_eq a n t i) _ _ (fun _ _ => trivial), push_brace,
        closeObject_writtenAll _ h, Item.text?, written, push_comma]
      simp only [String.append_assoc]
      rfl

/-- Where every object with members keeps one of them, `input_message` writes the reference
text, and reads exactly the lines the reference reads. -/
theorem inputMessage_eq_reference (a : Analyzer) (name : String) (members : List Member)
    (isEnum : Bool) (input : List String)
    (h : Filled (readItems a (members.map fun m => (m.memberName, m.memberDef)) input).1) :
    inputMessage a name members isEnum input =
      (referenceMessage name isEnum
          (readItems a (members.map fun m => (m.memberName, m.memberDef)) input).1,
        (readItems a (members.map fun m => (m.memberName, m.memberDef)) input).2) := by
  unfold readItems at h ⊢
  obtain ⟨hKept, hFilled⟩ := h
  unfold inputMessage referenceMessage
  rw [pushEach_eq_writtenAll (P := Item.Filled) (fun n t i hf => inputType_eq a n t i hf) _
    input hFilled]
  rcases members with _ | ⟨m, ms⟩
  · cases isEnum <;> simp [readEach, writtenAll, closeObject, joinFields, push_close,
      String.append_assoc]
  · have hne : (readEach (readItem a) ((m :: ms).map fun m => (m.memberName, m.memberDef))
        input).1 ≠ [] := by
      rw [← List.length_pos, readEach_length]
      simp
    simp only [List.length_cons, Nat.zero_lt_succ, decide_True]
    rw [closeObject_writtenAll _ (hKept hne)]
    cases isEnum
    · simp
    · simp [push_close, String.append_assoc]
      rfl

theorem inputMessage_eq_reference_transfer :
    Filled (readItems ⟨[], [("Coin", [("amount", "string"), ("denom", "string?")])], [], []⟩
        [("to", "string"), ("memo", "string?"), ("coin", "Coin")] ["bob", "", "12", ""]).1 ∧
      inputMessage ⟨[], [("Coin", [("amount", "string"), ("denom", "string?")])], [], []⟩
          "transfer" [⟨"to", "string"⟩, ⟨"memo", "string?"⟩, ⟨"coin", "Coin"⟩] true
          ["bob", "", "12", ""] =
        (referenceMessage "transfer" true
            (readItems ⟨[], [("Coin", [("amount", "string"), ("denom", "string?")])], [], []⟩
              [("to", "string"), ("memo", "string?"), ("coin", "Coin")] ["bob", "", "12", ""]).1,
          (readItems ⟨[], [("Coin", [("amount", "string"), ("denom", "string?")])], [], []⟩
            [("to", "string"), ("memo", "string?"), ("coin", "Coin")] ["bob", "", "12", ""]).2) :=
  ⟨by decide, inputMessage_eq_reference _ _ _ _ _ (by decide)⟩

/-- One optional field left blank: nothing is written for it, so the pop takes the opening
brace, and the message is `}` where the reference text is `{}`. -/
theorem inputMessage_all_omitted :
    inputMessage ⟨[], [], [], []⟩ "Msg" [⟨"memo", "string?"⟩] false [""] = ("\x7d", []) ∧
      referenceMessage "Msg" false
        (readItems ⟨[], [], [], []⟩ [("memo", "string?")] [""]).1 = "\x7b\x7d" := by
  decide

/-! ## Quoting operator input

For a `string` leaf, `to_json_item` drops the line's newlines and puts a backslash before each
`"`. Nothing else is escaped. So the value is the JSON string of the line without its newlines
when the line holds no backslash and no other control character, and it can fail to be a JSON
string when it holds a backslash. -/

/-- The quoted value is read back as the line without its newlines, as long as the line has no
backslash and no control character other than a newline. -/
theorem stringBody_quoted {l : List Char} (h : ∀ c ∈ l, c ≠ '\\' ∧ (c.toNat < 0x20 → c = '\n'))
    (rest : List Char) :
    Json.stringBody (((l.flatMap fun x => if x = '\n' then [] else [x]).flatMap
        fun x => if x = '"' then ['\\', '"'] else [x]) ++ '"' :: rest) =
      some (l.filter (· ≠ '\n'), rest) := by
  induction l with
  | nil => rfl
  | cons c l ih =>
    have ih := ih fun x hx => h x (List.mem_cons_of_mem c hx)
    obtain ⟨hb, hctl⟩ := h c (List.mem_cons_self c l)
    simp only [List.flatMap_cons, List.flatMap_append, List.append_assoc, List.filter_cons]
    by_cases hn : c = '\n'
    · simpa [hn] using ih
    · by_cases hq : c = '"'
      · subst hq
        simp [ih]
      · have hc : Json.Unescaped c := ⟨hq, hb, by by_contra hlt; exact hn (hctl (by omega))⟩
        simp [hn, hq, Json.stringBody_unescaped hc, ih]

/-- For a `string` leaf that is written (not an optional one left blank), `to_json_item` writes
`"name":` and the line quoted with its newlines dropped and `"` escaped. The quoted value is a
JSON string literal of the line without its newlines whenever the line has no backslash and no
control character other than a newline. -/
theorem toJsonItem_quotes_string (a : Analyzer) (name typeName s : String) (rest : List String)
    (hType : (a.mapOfBasetype.lookup (stripSuffix typeName).1).getD (stripSuffix typeName).1 =
      "string")
    (hKept : (stripSuffix typeName).2 = true → s ≠ "") :
    toJsonItem a name typeName (s :: rest) =
        ("\"" ++ name ++ "\":" ++ ("\"" ++ replace (replace s '\n' "") '"' "\\\"" ++ "\"") ++ ",",
          rest) ∧
      ((∀ c ∈ s.data, c ≠ '\\' ∧ (c.toNat < 0x20 → c = '\n')) →
        Json.stringLiteral ("\"" ++ replace (replace s '\n' "") '"' "\\\"" ++ "\"").data =
          some (s.data.filter (· ≠ '\n'), [])) := by
  constructor
  · rcases hs : stripSuffix typeName with ⟨base, optional⟩
    rw [hs] at hType hKept
    have hc : ¬ (s.isEmpty && optional) = true := by
      cases optional <;> simp_all [String.isEmpty_iff]
    simp only [toJsonItem, hs, inputWithOutHandle_cons, String.empty_append, if_neg hc, jsonValue,
      hType, checkIsNeedSlash, beq_self_eq_true, if_true]
  · intro h
    exact stringBody_quoted h []

theorem toJsonItem_quotes_string_bob :
    (List.lookup (stripSuffix "string?").1 ([] : List (String × String))).getD
        (stripSuffix "string?").1 = "string" ∧
      ((stripSuffix "string?").2 = true → "say \"hi\"" ≠ "") ∧
      toJsonItem ⟨[], [], [], []⟩ "name" "string?" ["say \"hi\""] =
          ("\"" ++ "name" ++ "\":" ++
            ("\"" ++ replace (replace "say \"hi\"" '\n' "") '"' "\\\"" ++ "\"") ++ ",", []) ∧
        ((∀ c ∈ "say \"hi\"".data, c ≠ '\\' ∧ (c.toNat < 0x20 → c = '\n')) →
          Json.stringLiteral
              ("\"" ++ replace (replace "say \"hi\"" '\n' "") '"' "\\\"" ++ "\"").data =
            some ("say \"hi\"".data.filter (· ≠ '\n'), [])) :=
  ⟨by decide, by decide,
    toJsonItem_quotes_string ⟨[], [], [], []⟩ "name" "string?" "say \"hi\"" [] (by decide)
      (by decide)⟩

/-- A line ending in a backslash: the backslash is not escaped, so it escapes the closing quote
and the value `"a\"` is not a JSON string. -/
theorem toJsonItem_backslash :
    toJsonItem ⟨[], [], [], []⟩ "memo" "string" ["a\\"] =
        ("\"memo\":" ++ jsonValue "string" "a\\" ++ ",", []) ∧
      Json.stringLiteral (jsonValue "string" "a\\").data = none := by
  decide

end CosmwasmSimulate
