import CosmwasmSimulate.Message

/-!
# Reading a message back

`input_message` writes the JSON text of a call by hand. For a message whose members are all
`string` leaves (in a CosmWasm schema that covers `String`, `Uint128`, `HumanAddr` and
`Binary`), the text is the JSON the operator meant. `Json.stringObject` reads it back as each
member with its line, newlines dropped, leaving out the optional members left blank, and
`Json.taggedObject` reads a tagged union back as its variant and those members.

* `members_joinFields`: members written as `"name":"value"` and joined by `,` are read back in
  order, whatever their number.
* `inputMessage_reads_back`: the round trip, as long as the names need no escaping, no line
  written holds a backslash or a control character other than a newline, and not every member
  is an optional one left blank (the case where the pop takes the opening brace).
-/

namespace CosmwasmSimulate

/-- The members of a message of `string` leaves that are written, each with the line it read:
all but the optional ones left blank. -/
def keptLines (members : List Member) (lines : List String) : List (String × String) :=
  (members.zip lines).filterMap fun ml =>
    if (stripSuffix ml.1.memberDef).2 = true ∧ ml.2 = "" then none
    else some (ml.1.memberName, ml.2)

/-- What the operator meant: each member written, with its line without newlines. -/
def messageFields (members : List Member) (lines : List String) : List (String × String) :=
  (keptLines members lines).map fun f => (f.1, ⟨f.2.data.filter (· ≠ '\n')⟩)

/-- The text `"name":"value"` `to_json_item` writes for a `string` leaf and its line. -/
def stringField (f : String × String) : String := "\"" ++ f.1 ++ "\":" ++ jsonValue "string" f.2

/-- A name that needs no escaping, with a line that holds no backslash and no control character
but newlines. -/
def Plain (f : String × String) : Prop :=
  (∀ c ∈ f.1.data, Json.Unescaped c) ∧ ∀ c ∈ f.2.data, c ≠ '\\' ∧ (c.toNat < 0x20 → c = '\n')

/-- Every member is a `string` leaf: not a struct of the schema, and of a type that stands for
the `string` primitive. -/
def StringLeaves (a : Analyzer) (members : List Member) : Prop :=
  ∀ m ∈ members, a.mapOfStruct.lookup m.memberDef = none ∧
    (a.mapOfBasetype.lookup (stripSuffix m.memberDef).1).getD (stripSuffix m.memberDef).1 =
      "string"

instance : DecidablePred Plain := fun f =>
  inferInstanceAs (Decidable ((∀ c ∈ f.1.data, Json.Unescaped c) ∧
    ∀ c ∈ f.2.data, c ≠ '\\' ∧ (c.toNat < 0x20 → c = '\n')))

instance (a : Analyzer) (members : List Member) : Decidable (StringLeaves a members) :=
  inferInstanceAs (Decidable (∀ m ∈ members, a.mapOfStruct.lookup m.memberDef = none ∧
    (a.mapOfBasetype.lookup (stripSuffix m.memberDef).1).getD (stripSuffix m.memberDef).1 =
      "string"))

/-! ## Members read back -/

theorem stringField_data (f : String × String) (tail : List Char) :
    (stringField f).data ++ tail = '"' :: (f.1.data ++ '"' :: ':' :: '"' ::
      ((replace (replace f.2 '\n' "") '"' "\\\"").data ++ '"' :: tail)) := by
  simp [stringField, jsonValue, checkIsNeedSlash]

/-- The key, the colon and the value of `"name":"value"`, as `Json.members` reads them before it
looks at what follows. -/
theorem stringField_parse {f : String × String} (hf : Plain f) (tail : List Char) :
    Json.stringLiteral (Json.skipWs ((stringField f).data ++ tail)) =
        some (f.1.data, ':' :: '"' ::
          ((replace (replace f.2 '\n' "") '"' "\\\"").data ++ '"' :: tail)) ∧
      Json.stringLiteral (Json.skipWs
          ('"' :: ((replace (replace f.2 '\n' "") '"' "\\\"").data ++ '"' :: tail))) =
        some (f.2.data.filter (· ≠ '\n'), tail) := by
  rw [stringField_data]
  simp only [Json.skipWs_cons (c := '"') rfl]
  exact ⟨Json.stringLiteral_unescaped hf.1 _, stringBody_quoted hf.2 tail⟩

/-- One member, followed by `,` and more. -/
theorem members_stringField_comma {fuel : Nat} {f : String × String} (hf : Plain f)
    (more : List Char) :
    Json.members (fuel + 1) ((stringField f).data ++ ',' :: more) =
      (Json.members fuel more).map ((f.1, ⟨f.2.data.filter (· ≠ '\n')⟩) :: ·) := by
  obtain ⟨hk, hv⟩ := stringField_parse hf (',' :: more)
  rw [Json.members, hk]
  simp only [↓Char.isValue, Json.skipWs_cons (c := ':') rfl, hv, Json.skipWs_cons (c := ',') rfl,
    show (⟨f.1.data⟩ : String) = f.1 from rfl]

/-- The last member, followed by the closing `}`. -/
theorem members_stringField_close {fuel : Nat} {f : String × String} (hf : Plain f) :
    Json.members (fuel + 1) ((stringField f).data ++ ['\x7d']) =
      some [(f.1, ⟨f.2.data.filter (· ≠ '\n')⟩)] := by
  obtain ⟨hk, hv⟩ := stringField_parse hf ['\x7d']
  rw [Json.members, hk]
  simp only [↓Char.isValue, Json.skipWs_cons (c := ':') rfl, hv, Json.skipWs_cons (c := '\x7d') rfl,
    show (⟨f.1.data⟩ : String) = f.1 from rfl, show Json.skipWs [] = [] from rfl, if_true]

theorem length_le_joinFields : ∀ ss : List String, ss.length ≤ (joinFields ss).length + 1
  | [] => by simp
  | [s] => by simp [joinFields]
  | s :: t :: ss => by
    have := length_le_joinFields (t :: ss)
    rw [joinFields_cons s (List.cons_ne_nil _ _), String.length_append, String.length_append]
    simp only [List.length_cons] at this ⊢
    have : ",".length = 1 := rfl
    omega

/-- Members written as `"name":"value"`, joined by `,` and closed by `}`, are read back in order,
given at least as much fuel as there are members. -/
theorem members_joinFields :
    ∀ {fields : List (String × String)} {fuel : Nat}, fields ≠ [] → fields.length ≤ fuel →
      (∀ f ∈ fields, Plain f) →
      Json.members fuel (joinFields (fields.map stringField) ++ "\x7d").data =
        some (fields.map fun f => (f.1, ⟨f.2.data.filter (· ≠ '\n')⟩))
  | [], _, h, _, _ => absurd rfl h
  | _ :: _, 0, _, hl, _ => absurd hl (by simp)
  | [f], _ + 1, _, _, hp => members_stringField_close (hp f (List.mem_singleton_self f))
  | f :: g :: gs, fuel + 1, _, hl, hp => by
    have htail : (joinFields ((f :: g :: gs).map stringField) ++ "\x7d").data =
        (stringField f).data ++ ',' :: (joinFields ((g :: gs).map stringField) ++ "\x7d").data := by
      simp [joinFields_cons (stringField f) (List.cons_ne_nil _ _)]
    rw [htail, members_stringField_comma (hp f (List.mem_cons_self _ _)),
      members_joinFields (List.cons_ne_nil _ _) (by simp at hl ⊢; omega)
        fun x hx => hp x (List.mem_cons_of_mem _ hx)]
    rfl

/-- A nonempty object of such members, as a whole JSON text. -/
theorem stringObject_joinFields {fields : List (String × String)} (hne : fields ≠ [])
    (hp : ∀ f ∈ fields, Plain f) :
    Json.stringObject ("\x7b" ++ joinFields (fields.map stringField) ++ "\x7d").data =
      some (fields.map fun f => (f.1, ⟨f.2.data.filter (· ≠ '\n')⟩)) := by
  obtain ⟨f, fs, rfl⟩ := List.exists_cons_of_ne_nil hne
  obtain ⟨tail, htail⟩ : ∃ tail,
      (joinFields ((f :: fs).map stringField) ++ "\x7d").data = '"' :: tail := by
    cases fs with
    | nil => exact ⟨_, by rw [List.map_singleton, String.data_append]; exact stringField_data f _⟩
    | cons g gs =>
      exact ⟨_, by rw [List.map_cons, joinFields_cons _ (by simp), String.append_assoc,
        String.append_assoc, String.data_append]; exact stringField_data f _⟩
  have hlen : (f :: fs).length ≤ ('"' :: tail).length := by
    rw [← htail]
    simpa using length_le_joinFields ((f :: fs).map stringField)
  rw [String.append_assoc, String.data_append]
  simp only [show ("\x7b" : String).data = ['\x7b'] from rfl, List.singleton_append]
  rw [htail, Json.stringObject]
  simp only [Json.skipWs_cons (c := '\x7b') rfl, Json.skipWs_cons (c := '"') rfl]
  split
  · next heq => exact absurd (List.cons.inj heq).1 (by decide)
  · rw [← htail]
    refine members_joinFields hne ?_ hp
    rwa [htail]

/-! ## The constructor's text -/

/-- What `to_json_item` writes for a `string` leaf and its line, before the comma: nothing for
an optional member left blank. -/
def keptText (ml : Member × String) : Option String :=
  (if (stripSuffix ml.1.memberDef).2 = true ∧ ml.2 = "" then none
    else some (ml.1.memberName, ml.2)).map stringField

theorem filterMap_keptText (members : List Member) (lines : List String) :
    (members.zip lines).filterMap keptText = (keptLines members lines).map stringField :=
  (List.map_filterMap _ _ _).symm

/-- A `string` leaf takes one line and writes it as `"name":"value",`, or nothing when it is
optional and the line is blank. -/
theorem inputType_stringLeaf {a : Analyzer} {m : Member}
    (hm : a.mapOfStruct.lookup m.memberDef = none ∧
      (a.mapOfBasetype.lookup (stripSuffix m.memberDef).1).getD (stripSuffix m.memberDef).1 =
        "string")
    (l : String) (input : List String) :
    inputType a m.memberName m.memberDef (l :: input) = (written (keptText (m, l)), input) := by
  unfold inputType
  rw [hm.1, toJsonItem_eq]
  simp only [readLeaf, List.headD_cons, List.tail_cons, hm.2, keptText]
  split_ifs <;> rfl

/-- The members of a message of `string` leaves, written one after another, each reading one
line. -/
theorem pushEach_stringLeaves {a : Analyzer} (rest : List String) :
    ∀ {members : List Member} {lines : List String}, lines.length = members.length →
      StringLeaves a members →
      pushEach (inputType a) (members.map fun m => (m.memberName, m.memberDef)) (lines ++ rest) =
        (writtenAll keptText (members.zip lines), rest)
  | [], [], _, _ => rfl
  | m :: ms, l :: ls, hlen, hs => by
    simp only [List.map_cons, List.cons_append, pushEach,
      inputType_stringLeaf (hs m (List.mem_cons_self _ _)),
      pushEach_stringLeaves rest (by simpa using hlen) fun x hx => hs x (List.mem_cons_of_mem _ hx)]
    rfl
  | [], _ :: _, hlen, _ => absurd hlen (by simp)
  | _ :: _, [], hlen, _ => absurd hlen (by simp)

/-- The object of a message of `string` leaves, closed as `input_message` closes it, is the
object of the members written. -/
theorem stringObject_written {members : List Member} {lines : List String}
    (hlen : lines.length = members.length) (hplain : ∀ f ∈ keptLines members lines, Plain f)
    (hkept : members ≠ [] → keptLines members lines ≠ []) :
    Json.stringObject (closeObject ("\x7b" ++ writtenAll keptText (members.zip lines))
        (decide (0 < members.length))).data =
      some (messageFields members lines) := by
  rcases members with _ | ⟨m, ms⟩
  · cases lines with
    | nil => rfl
    | cons l ls => simp at hlen
  · have hne := hkept (List.cons_ne_nil _ _)
    rw [show decide (0 < (m :: ms).length) = true by simp,
      closeObject_writtenAll _ (by rw [filterMap_keptText]; simpa using hne), filterMap_keptText]
    exact stringObject_joinFields (by simpa using hne) hplain

theorem closeObject_append (p : String) {q : String} (hq : q.data ≠ []) (hasMembers : Bool) :
    closeObject (p ++ q) hasMembers = p ++ closeObject q hasMembers := by
  have hpop : pop (p ++ q) = p ++ pop q :=
    String.ext (by simpa [pop] using List.dropLast_append_of_ne_nil p.data hq)
  cases hasMembers <;> simp [closeObject, hpop, push_close, String.append_assoc]

/-- `{"tag":<inner>}` is read as its tag and what `inner` is read as. -/
theorem taggedObject_wrap {tag : String} (inner : String) (htag : ∀ c ∈ tag.data, Json.Unescaped c) :
    Json.taggedObject ("\x7b\"" ++ tag ++ "\":" ++ inner ++ "\x7d").data =
      (Json.stringObject inner.data).map (tag, ·) := by
  have hdata : ("\x7b\"" ++ tag ++ "\":" ++ inner ++ "\x7d").data =
      '\x7b' :: '"' :: (tag.data ++ '"' :: ':' :: (inner.data ++ ['\x7d'])) := by
    simp
  rw [hdata, Json.taggedObject]
  simp only [↓Char.isValue, Json.skipWs_cons (c := '\x7b') rfl, Json.skipWs_cons (c := '"') rfl,
    Json.stringLiteral_unescaped htag, Json.skipWs_cons (c := ':') rfl, List.reverse_append,
    List.reverse_cons, List.reverse_nil, List.nil_append, List.singleton_append,
    Json.skipWs_cons (c := '\x7d') rfl, List.reverse_reverse]

/-- For a message whose members are all `string` leaves, the text `input_message` writes reads
back as the members written, each with its line without newlines: as an object of strings, and
for a tagged union as that object under its tag. This holds as long as the names need no
escaping, no line written holds a backslash or a control character other than a newline, and
not every member is an optional one left blank. -/
theorem inputMessage_reads_back (a : Analyzer) (name : String) (members : List Member)
    (lines rest : List String) (hlen : lines.length = members.length)
    (hleaves : StringLeaves a members) (hplain : ∀ f ∈ keptLines members lines, Plain f)
    (hkept : members ≠ [] → keptLines members lines ≠ []) :
    Json.stringObject (inputMessage a name members false (lines ++ rest)).1.data =
        some (messageFields members lines) ∧
      ((∀ c ∈ name.data, Json.Unescaped c) →
        Json.taggedObject (inputMessage a name members true (lines ++ rest)).1.data =
          some (name, messageFields members lines)) := by
  have hinner := stringObject_written hlen hplain hkept
  refine ⟨by simpa [inputMessage, pushEach_stringLeaves rest hlen hleaves] using hinner,
    fun hname => ?_⟩
  simp only [inputMessage, pushEach_stringLeaves rest hlen hleaves, if_true]
  rw [show ("\x7b\"" ++ name ++ "\":\x7b" : String) = "\x7b\"" ++ name ++ "\":" ++ "\x7b" by
      simp only [String.append_assoc]; rfl,
    String.append_assoc ("\x7b\"" ++ name ++ "\":"), closeObject_append _ (by simp), push_close,
    taggedObject_wrap _ hname, hinner]
  rfl

/-- A transfer: the address, an amount typed with a trailing newline, and the optional memo left
blank, which is left out, as `{"to":"bob","amount":"12"}` and as the tagged
`{"send":{"to":"bob","amount":"12"}}`. -/
theorem inputMessage_reads_back_send :
    ["bob", "12\n", ""].length =
        ([⟨"to", "HumanAddr"⟩, ⟨"amount", "Uint128"⟩, ⟨"memo", "string?"⟩] : List Member).length ∧
      StringLeaves ⟨[("HumanAddr", "string"), ("Uint128", "string")], [], [], []⟩
        [⟨"to", "HumanAddr"⟩, ⟨"amount", "Uint128"⟩, ⟨"memo", "string?"⟩] ∧
      (∀ f ∈ keptLines [⟨"to", "HumanAddr"⟩, ⟨"amount", "Uint128"⟩, ⟨"memo", "string?"⟩]
        ["bob", "12\n", ""], Plain f) ∧
      ([⟨"to", "HumanAddr"⟩, ⟨"amount", "Uint128"⟩, ⟨"memo", "string?"⟩] ≠ ([] : List Member) →
        keptLines [⟨"to", "HumanAddr"⟩, ⟨"amount", "Uint128"⟩, ⟨"memo", "string?"⟩]
          ["bob", "12\n", ""] ≠ []) ∧
      Json.stringObject (inputMessage ⟨[("HumanAddr", "string"), ("Uint128", "string")], [], [], []⟩
          "send" [⟨"to", "HumanAddr"⟩, ⟨"amount", "Uint128"⟩, ⟨"memo", "string?"⟩] false
          (["bob", "12\n", ""] ++ [])).1.data =
        some (messageFields [⟨"to", "HumanAddr"⟩, ⟨"amount", "Uint128"⟩, ⟨"memo", "string?"⟩]
          ["bob", "12\n", ""]) ∧
      ((∀ c ∈ "send".data, Json.Unescaped c) →
        Json.taggedObject (inputMessage ⟨[("HumanAddr", "string"), ("Uint128", "string")], [], [], []⟩
            "send" [⟨"to", "HumanAddr"⟩, ⟨"amount", "Uint128"⟩, ⟨"memo", "string?"⟩] true
            (["bob", "12\n", ""] ++ [])).1.data =
          some ("send", messageFields [⟨"to", "HumanAddr"⟩, ⟨"amount", "Uint128"⟩,
            ⟨"memo", "string?"⟩] ["bob", "12\n", ""])) :=
  ⟨rfl, by decide, by decide, by decide,
    inputMessage_reads_back _ _ _ _ _ rfl (by decide) (by decide) (by decide)⟩

end CosmwasmSimulate
