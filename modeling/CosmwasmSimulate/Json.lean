import Mathlib.Data.List.Basic

/-!
# JSON text: string literals and objects of strings

The simulator never builds a JSON value: it writes JSON text by hand, in `to_json_item`
(operator input quoted as a string literal) and in the REST routes (`{"error": "..."}`). To
say when that text is what it looks like, this file gives the two pieces of the JSON grammar
(RFC 8259) those places produce, as decoders over `List Char`:

* `stringLiteral`: a string literal (§7), returning the text it denotes and what follows it.
  Control characters must be escaped, and a `\u` escape of a surrogate must be the first half
  of a pair.
* `stringObject`: a whole JSON text that is an object whose values are all strings (§2, §4).
  A text of that shape is valid JSON exactly when `stringObject` accepts it.
* `taggedObject`: a whole JSON text that is an object with one member whose value is such an
  object, the way a tagged union is written: its tag and its members.

The lemmas are what the proofs about the simulator use: a run of unescaped characters is read
as it is (`stringBody_append_unescaped`), and `\"` stands for `"`.
-/

namespace CosmwasmSimulate.Json

/-! ## Characters -/

/-- JSON whitespace. -/
def isWs (c : Char) : Bool := c == ' ' || c == '\t' || c == '\n' || c == '\r'

def skipWs : List Char → List Char
  | c :: cs => if isWs c then skipWs cs else c :: cs
  | [] => []

/-- A character a string literal may hold as it is (`unescaped` of RFC 8259 §7). -/
def Unescaped (c : Char) : Prop := c ≠ '"' ∧ c ≠ '\\' ∧ 0x20 ≤ c.toNat

instance : DecidablePred Unescaped := fun _ => inferInstanceAs (Decidable (_ ∧ _ ∧ _))

def hexValue (c : Char) : Option Nat :=
  if '0' ≤ c ∧ c ≤ '9' then some (c.toNat - '0'.toNat)
  else if 'a' ≤ c ∧ c ≤ 'f' then some (c.toNat - 'a'.toNat + 10)
  else if 'A' ≤ c ∧ c ≤ 'F' then some (c.toNat - 'A'.toNat + 10)
  else none

def hex4 (a b c d : Char) : Option Nat := do
  let a ← hexValue a
  let b ← hexValue b
  let c ← hexValue c
  let d ← hexValue d
  pure (((a * 16 + b) * 16 + c) * 16 + d)

/-- The two-character escapes `\" \\ \/ \b \f \n \r \t`. -/
def unescape : Char → Option Char
  | '"' => some '"'
  | '\\' => some '\\'
  | '/' => some '/'
  | 'b' => some (Char.ofNat 8)
  | 'f' => some (Char.ofNat 12)
  | 'n' => some '\n'
  | 'r' => some '\r'
  | 't' => some '\t'
  | _ => none

/-! ## String literals -/

/-- Put a decoded character in front of what the rest of a literal decodes to. -/
def prepend (d : Char) : Option (List Char × List Char) → Option (List Char × List Char) :=
  Option.map fun p => (d :: p.1, p.2)

/-- The characters of a string literal after its opening quote: the decoded text, and what
follows the closing quote. -/
def stringBody : List Char → Option (List Char × List Char)
  | [] => none
  | '"' :: rest => some ([], rest)
  | '\\' :: 'u' :: a :: b :: c :: d :: rest =>
    match hex4 a b c d with
    | none => none
    | some n =>
      if n < 0xD800 ∨ 0xE000 ≤ n then prepend (Char.ofNat n) (stringBody rest)
      else if n < 0xDC00 then
        match rest with
        | '\\' :: 'u' :: e :: f :: g :: h :: rest' =>
          match hex4 e f g h with
          | some m =>
            if 0xDC00 ≤ m ∧ m < 0xE000 then
              prepend (Char.ofNat (0x10000 + (n - 0xD800) * 0x400 + (m - 0xDC00)))
                (stringBody rest')
            else none
          | none => none
        | _ => none
      else none
  | '\\' :: c :: rest =>
    match unescape c with
    | some d => prepend d (stringBody rest)
    | none => none
  | c :: rest => if c.toNat < 0x20 then none else prepend c (stringBody rest)

/-- A string literal at the front of `cs`: its text, and what follows it. -/
def stringLiteral : List Char → Option (List Char × List Char)
  | '"' :: rest => stringBody rest
  | _ => none

@[simp] theorem prepend_none (d : Char) : prepend d none = none := rfl

@[simp] theorem prepend_some (d : Char) (p : List Char × List Char) :
    prepend d (some p) = some (d :: p.1, p.2) := rfl

@[simp] theorem stringBody_quote (rest : List Char) : stringBody ('"' :: rest) = some ([], rest) :=
  rfl

@[simp] theorem stringBody_escaped_quote (rest : List Char) :
    stringBody ('\\' :: '"' :: rest) = prepend '"' (stringBody rest) := rfl

theorem stringBody_unescaped {c : Char} (hc : Unescaped c) (rest : List Char) :
    stringBody (c :: rest) = prepend c (stringBody rest) := by
  obtain ⟨hq, hb, hctl⟩ := hc
  rw [stringBody]
  · simp only [if_neg (show ¬ c.toNat < 0x20 by omega)]
  · exact hq
  · exact fun _ _ _ _ _ h => absurd h hb
  · exact fun _ _ h => absurd h hb

/-- A run of unescaped characters is read as it is. -/
theorem stringBody_append_unescaped {cs : List Char} (h : ∀ c ∈ cs, Unescaped c)
    (rest : List Char) :
    stringBody (cs ++ rest) = (stringBody rest).map fun p => (cs ++ p.1, p.2) := by
  induction cs with
  | nil => simp
  | cons c cs ih =>
    rw [List.cons_append, stringBody_unescaped (h c (List.mem_cons_self c cs)),
      ih fun x hx => h x (List.mem_cons_of_mem c hx)]
    cases stringBody rest <;> rfl

theorem stringLiteral_unescaped {cs : List Char} (h : ∀ c ∈ cs, Unescaped c)
    (rest : List Char) : stringLiteral ('"' :: (cs ++ '"' :: rest)) = some (cs, rest) := by
  simp [stringLiteral, stringBody_append_unescaped h]

/-! ## Objects of strings -/

/-- The members of an object after its `{`, through the closing `}` and the whitespace that
ends the text. `fuel` bounds the number of members; the length of the text is always enough,
since every member takes at least one character. -/
def members : Nat → List Char → Option (List (String × String))
  | 0, _ => none
  | fuel + 1, cs =>
    match stringLiteral (skipWs cs) with
    | none => none
    | some (k, cs) =>
      match skipWs cs with
      | ':' :: cs =>
        match stringLiteral (skipWs cs) with
        | none => none
        | some (v, cs) =>
          match skipWs cs with
          | ',' :: cs => (members fuel cs).map ((String.mk k, String.mk v) :: ·)
          | '\x7d' :: cs => if skipWs cs = [] then some [(String.mk k, String.mk v)] else none
          | _ => none
      | _ => none

/-- A whole JSON text that is an object whose values are all strings, as its members. -/
def stringObject (text : List Char) : Option (List (String × String)) :=
  match skipWs text with
  | '\x7b' :: cs =>
    match skipWs cs with
    | '\x7d' :: rest => if skipWs rest = [] then some [] else none
    | _ => members cs.length cs
  | _ => none

/-- A whole JSON text `{"tag": <object of strings>}`, as its tag and members. The inner object is
what stands between the `:` and the last `}` of the text. -/
def taggedObject (text : List Char) : Option (String × List (String × String)) :=
  match skipWs text with
  | '\x7b' :: cs =>
    match stringLiteral (skipWs cs) with
    | none => none
    | some (tag, cs) =>
      match skipWs cs with
      | ':' :: cs =>
        match skipWs cs.reverse with
        | '\x7d' :: body => (stringObject body.reverse).map fun fields => (String.mk tag, fields)
        | _ => none
      | _ => none
  | _ => none

theorem skipWs_cons {c : Char} (h : isWs c = false) (cs : List Char) :
    skipWs (c :: cs) = c :: cs := by
  simp [skipWs, h]

/-- An object with one member `"k": "v"` is read back when neither text needs escaping. -/
theorem stringObject_single {k v : List Char} (hk : ∀ c ∈ k, Unescaped c)
    (hv : ∀ c ∈ v, Unescaped c) :
    stringObject ('\x7b' :: '"' :: (k ++ '"' :: ':' :: ' ' :: '"' :: (v ++ ['"', '\x7d']))) =
      some [(⟨k⟩, ⟨v⟩)] := by
  have hq : isWs '"' = false := rfl
  simp [stringObject, skipWs_cons (c := '\x7b') rfl, skipWs_cons hq]
  rw [members]
  simp [skipWs_cons hq, stringLiteral_unescaped hk, skipWs, isWs, stringLiteral_unescaped hv]

end CosmwasmSimulate.Json
