import Mathlib.Data.List.Sort
import AlertPipeline.Builders

/-
The labels of an alert as the code stores them.  `NewAlert` keeps its `map[string]string` as
the JSON text `datatypes.NewJSONType(labels).MarshalJSON()` writes, which is `json.Marshal`:
`mapEncoder.encode` writes the entries sorted by key, and `appendString` escapes each key and
value with `escapeHTML` on.  `Alert.GetLabelsMap` reads the text back with `json.Unmarshal` and
answers the empty map on any error.  `Models.Alert` keeps the map itself; the round trip below
is what makes it a model of the stored text.

Go strings are Lean strings here, so the text is valid UTF-8 and the encoder's `\ufffd` for an
invalid byte does not arise.  `strings.Compare` sorts by bytes, and UTF-8 orders bytes as it
orders code points, so keys are compared by code points.  The decoder reads the text a
character at a time; every character it treats specially is ASCII, so this is the byte scanner
of `encoding/json`.  `Unmarshal` only succeeds on `null` and on an object whose values are
strings or `null`: any other text ends in a syntax error or an `UnmarshalTypeError`, which
`GetLabelsMap` treats alike, so the decoder answers `none` for both.
-/

namespace AlertPipeline

namespace Json

/-! ### The encoder -/

/-- `hex[n]` of `encoding/json`: the lower-case hexadecimal digit of a nibble. -/
def hex (n : Nat) : Char := if n < 10 then Char.ofNat (48 + n) else Char.ofNat (87 + n)

/-- `htmlSafeSet`: the ASCII characters `appendString` copies as they are. -/
def htmlSafe (c : Char) : Bool :=
  0x20 ≤ c.toNat && c.toNat ≤ 0x7f && c != '"' && c != '\\' && c != '<' && c != '>' && c != '&'

/-- What `appendString` with `escapeHTML` writes for one character. -/
def escapeChar (c : Char) : List Char :=
  if c.toNat < 0x80 then
    if htmlSafe c then [c]
    else if c = '\\' ∨ c = '"' then ['\\', c]
    else if c = '\x08' then ['\\', 'b']
    else if c = '\x0c' then ['\\', 'f']
    else if c = '\n' then ['\\', 'n']
    else if c = '\r' then ['\\', 'r']
    else if c = '\t' then ['\\', 't']
    else ['\\', 'u', '0', '0', hex (c.toNat / 16), hex (c.toNat % 16)]
  else if c = '\u2028' ∨ c = '\u2029' then ['\\', 'u', '2', '0', '2', hex (c.toNat % 16)]
  else [c]

/-- `appendString(dst, s, true)` past `dst`: the quoted and escaped string. -/
def appendString (s : String) : List Char :=
  '"' :: (s.toList.flatMap escapeChar ++ ['"'])

/-- The entries of the Go map an association list stands for: the first entry of each key. -/
def mapEntries : List (String × String) → List (String × String)
  | [] => []
  | e :: m => e :: (mapEntries m).filter (·.1 != e.1)

/-- `strings.Compare(a, b) < 0`: the first code point where they differ decides, and a
proper prefix comes first. -/
def keyLess : List Char → List Char → Bool
  | _, [] => false
  | [], _ :: _ => true
  | c :: cs, d :: ds => if c = d then keyLess cs ds else c.toNat < d.toNat

/-- `strings.Compare(a.ks, b.ks) <= 0`, the order `mapEncoder.encode` sorts the entries by. -/
def keyLE (a b : String × String) : Prop := keyLess b.1.toList a.1.toList = false

instance : DecidableRel keyLE := fun a b =>
  inferInstanceAs (Decidable (keyLess b.1.toList a.1.toList = false))

/-- The entries in the order `mapEncoder.encode` writes them. -/
def sortedEntries (m : List (String × String)) : List (String × String) :=
  (mapEntries m).insertionSort keyLE

/-- The members `mapEncoder.encode` writes, with a `,` before each but the first. -/
def encodeMembers : List (String × String) → List Char
  | [] => []
  | [(k, v)] => appendString k ++ ':' :: appendString v
  | (k, v) :: e :: rest => appendString k ++ ':' :: (appendString v ++ ',' :: encodeMembers (e :: rest))

/-- `datatypes.NewJSONType(labels).MarshalJSON()`, that is `json.Marshal(labels)`: the text
`NewAlert` stores as `Labels`. -/
def marshalJSON (labels : List (String × String)) : String :=
  String.mk ('{' :: (encodeMembers (sortedEntries labels) ++ ['}']))

/-- `json.Marshal` of any `map[string]string` value, `none` being a nil map, for which
`mapEncoder.encode` writes `null`. -/
def marshalMap : Option (List (String × String)) → String
  | none => "null"
  | some labels => marshalJSON labels

/-! ### The decoder -/

/-- `isSpace` of the decoder: the whitespace allowed between tokens. -/
def isSpace (c : Char) : Bool := c = ' ' || c = '\t' || c = '\r' || c = '\n'

def skipSpace : List Char → List Char
  | [] => []
  | c :: cs => if isSpace c then skipSpace cs else c :: cs

/-- A hexadecimal digit's value, as `getu4` reads it. -/
def hexValue (c : Char) : Option Nat :=
  if 48 ≤ c.toNat ∧ c.toNat ≤ 57 then some (c.toNat - 48)
  else if 97 ≤ c.toNat ∧ c.toNat ≤ 102 then some (c.toNat - 87)
  else if 65 ≤ c.toNat ∧ c.toNat ≤ 70 then some (c.toNat - 55)
  else none

/-- The escapes other than `\u` that the scanner allows, and the character `unquote` makes of
each. -/
def simpleEscape (e : Char) : Option Char :=
  if e = '"' ∨ e = '\\' ∨ e = '/' then some e
  else if e = 'b' then some '\x08'
  else if e = 'f' then some '\x0c'
  else if e = 'n' then some '\n'
  else if e = 'r' then some '\r'
  else if e = 't' then some '\t'
  else none

/-- `utf16.DecodeRune(r1, r2)` where it pairs a high and a low surrogate. -/
def decodeSurrogates (r1 r2 : Nat) : Option Char :=
  if 0xD800 ≤ r1 ∧ r1 < 0xDC00 ∧ 0xDC00 ≤ r2 ∧ r2 < 0xE000 then
    some (Char.ofNat ((r1 - 0xD800) * 0x400 + (r2 - 0xDC00) + 0x10000))
  else none

/-- Where the scanner is inside a string, with what `unquote` still owes for it. -/
inductive StrState where
  /-- `stateInString`. -/
  | chars
  /-- `stateInStringEsc`: after a backslash. -/
  | escape
  /-- `stateInStringEscU...`: `digits` hexadecimal digits of a `\u` escape read, of value
  `value` so far. -/
  | hex (digits value : Nat)
  /-- After a `\u` escape of the surrogate `r`: `unquote` looks for a `\u` escape to pair it
  with, and writes `U+FFFD` for it otherwise. -/
  | surrogate (r : Nat)
  | surrogateEscape (r : Nat)
  | surrogateHex (r digits value : Nat)
deriving Repr, DecidableEq

/-- `unquote` writes `c` in front of what it writes for the rest. -/
def emit (c : Char) (result : Option (List Char × List Char)) : Option (List Char × List Char) :=
  result.map fun p => (c :: p.1, p.2)

/-- The code point `r` of a `\u` escape: a surrogate waits for its partner, another code point
is written. `next st` is the decoding of the rest from state `st`. -/
def afterU (r : Nat) (next : StrState → Option (List Char × List Char)) :
    Option (List Char × List Char) :=
  if 0xD800 ≤ r ∧ r < 0xE000 then next (.surrogate r) else emit (Char.ofNat r) (next .chars)

/-- A character `c` of the string's text, followed by `rest`: the closing quote, a backslash,
a control character (an error), or a character written as it is. -/
def inChars (c : Char) (rest : List Char) (next : StrState → Option (List Char × List Char)) :
    Option (List Char × List Char) :=
  if c = '"' then some ([], rest)
  else if c = '\\' then next .escape
  else if c.toNat < 0x20 then none
  else emit c (next .chars)

/-- The character `e` after a backslash. -/
def inEscape (e : Char) (next : StrState → Option (List Char × List Char)) :
    Option (List Char × List Char) :=
  match simpleEscape e with
  | some d => emit d (next .chars)
  | none => if e = 'u' then next (.hex 0 0) else none

/-- The scanner's string states and `unquote` together, a character at a time: the characters
of the string, and the text after its closing quote. -/
def unquoteFrom : StrState → List Char → Option (List Char × List Char)
  | _, [] => none
  | .chars, c :: rest => inChars c rest (unquoteFrom · rest)
  | .escape, e :: rest => inEscape e (unquoteFrom · rest)
  | .hex digits value, x :: rest =>
    match hexValue x with
    | none => none
    | some d =>
      if digits < 3 then unquoteFrom (.hex (digits + 1) (value * 16 + d)) rest
      else afterU (value * 16 + d) (unquoteFrom · rest)
  | .surrogate r, c :: rest =>
    if c = '\\' then unquoteFrom (.surrogateEscape r) rest
    else emit '\uFFFD' (inChars c rest (unquoteFrom · rest))
  | .surrogateEscape r, e :: rest =>
    if e = 'u' then unquoteFrom (.surrogateHex r 0 0) rest
    else emit '\uFFFD' (inEscape e (unquoteFrom · rest))
  | .surrogateHex r digits value, x :: rest =>
    match hexValue x with
    | none => none
    | some d =>
      if digits < 3 then unquoteFrom (.surrogateHex r (digits + 1) (value * 16 + d)) rest
      else match decodeSurrogates r (value * 16 + d) with
        | some ch => emit ch (unquoteFrom .chars rest)
        | none => emit '\uFFFD' (afterU (value * 16 + d) (unquoteFrom · rest))

/-- The body of a string after its opening quote, as the scanner checks it and `unquote`
decodes it.  A surrogate escape that does not pair with the next escape decodes to `U+FFFD`,
and the next escape is decoded on its own. -/
def unquote (cs : List Char) : Option (List Char × List Char) := unquoteFrom .chars cs

/-- The text after the token `c` and the whitespace before it; `none` where another token
stands. -/
def token (c : Char) (cs : List Char) : Option (List Char) :=
  match skipSpace cs with
  | d :: rest => if d = c then some rest else none
  | [] => none

/-- A member's value that a `map[string]string` can hold: a string, or `null`, which stores the
zero value `""`. -/
def elemValue : List Char → Option (String × List Char)
  | [] => none
  | c :: cs =>
    if c = '"' then (unquote cs).map fun p => (String.mk p.1, p.2)
    else if c = 'n' ∧ cs.take 3 = ['u', 'l', 'l'] then some ("", cs.drop 3)
    else none

/-- The members of an object after `{`, each stored by `SetMapIndex` in the order read, so a
repeated key keeps its last value; `fuel` bounds how many. -/
def objectMembers : Nat → List (String × String) → List Char →
    Option (List (String × String) × List Char)
  | 0, _, _ => none
  | fuel + 1, m, cs => do
    let cs ← token '"' cs
    let (key, cs) ← unquote cs
    let cs ← token ':' cs
    let (value, cs) ← elemValue (skipSpace cs)
    let m := mapSet m (String.mk key) value
    match skipSpace cs with
    | d :: cs => if d = ',' then objectMembers fuel m cs else if d = '}' then some (m, cs) else none
    | [] => none

/-- The value `Unmarshal` decodes into the map: `null`, which leaves it `nil` and so empty, or
an object. -/
def labelsValue (fuel : Nat) (cs : List Char) : Option (List (String × String) × List Char) :=
  match skipSpace cs with
  | [] => none
  | c :: rest =>
    if c = '{' then
      match token '}' rest with
      | some rest => some ([], rest)
      | none => objectMembers fuel [] rest
    else if c = 'n' ∧ rest.take 3 = ['u', 'l', 'l'] then some ([], rest.drop 3)
    else none

/-- `json.Unmarshal(data, &labels)` into a `map[string]string`: the map, or `none` for an
error, also for text after the value. -/
def unmarshal (data : String) : Option (List (String × String)) := do
  let (m, rest) ← labelsValue data.length data.toList
  if skipSpace rest = [] then some m else none

/-- `Alert.GetLabelsMap` on the stored `Labels`: the map `Unmarshal` fills, or the empty map
when it fails. -/
def getLabelsMap (labels : String) : List (String × String) := (unmarshal labels).getD []

/-! ### Strings come back as they were written -/

theorem hexValue_hex : ∀ n, n < 16 → hexValue (hex n) = some n := by decide

theorem escapeChar_cases (c : Char) :
    (c.toNat < 0x80 ∧ htmlSafe c ∧ escapeChar c = [c]) ∨
    ((c = '\\' ∨ c = '"') ∧ escapeChar c = ['\\', c]) ∨
    (c = '\x08' ∧ escapeChar c = ['\\', 'b']) ∨ (c = '\x0c' ∧ escapeChar c = ['\\', 'f']) ∨
    (c = '\n' ∧ escapeChar c = ['\\', 'n']) ∨ (c = '\r' ∧ escapeChar c = ['\\', 'r']) ∨
    (c = '\t' ∧ escapeChar c = ['\\', 't']) ∨
    (c.toNat < 0x80 ∧
      escapeChar c = ['\\', 'u', '0', '0', hex (c.toNat / 16), hex (c.toNat % 16)]) ∨
    ((c = '\u2028' ∨ c = '\u2029') ∧
      escapeChar c = ['\\', 'u', '2', '0', '2', hex (c.toNat % 16)]) ∨
    (0x80 ≤ c.toNat ∧ c ≠ '\u2028' ∧ c ≠ '\u2029' ∧ escapeChar c = [c]) := by
  rw [escapeChar]
  by_cases hascii : c.toNat < 0x80
  · rw [if_pos hascii]
    by_cases hsafe : htmlSafe c
    · exact .inl ⟨hascii, hsafe, if_pos hsafe⟩
    rw [if_neg hsafe]
    refine .inr ?_
    by_cases hq : c = '\\' ∨ c = '"'
    · exact .inl ⟨hq, if_pos hq⟩
    rw [if_neg hq]
    refine .inr ?_
    by_cases h8 : c = '\x08'
    · exact .inl ⟨h8, if_pos h8⟩
    rw [if_neg h8]
    refine .inr ?_
    by_cases h12 : c = '\x0c'
    · exact .inl ⟨h12, if_pos h12⟩
    rw [if_neg h12]
    refine .inr ?_
    by_cases hn : c = '\n'
    · exact .inl ⟨hn, if_pos hn⟩
    rw [if_neg hn]
    refine .inr ?_
    by_cases hr : c = '\r'
    · exact .inl ⟨hr, if_pos hr⟩
    rw [if_neg hr]
    refine .inr ?_
    by_cases ht : c = '\t'
    · exact .inl ⟨ht, if_pos ht⟩
    exact .inr (.inl ⟨hascii, if_neg ht⟩)
  · rw [if_neg hascii]
    refine .inr (.inr (.inr (.inr (.inr (.inr (.inr (.inr ?_)))))))
    by_cases hline : c = '\u2028' ∨ c = '\u2029'
    · exact .inl ⟨hline, if_pos hline⟩
    · exact .inr ⟨Nat.not_lt.1 hascii, fun h => hline (.inl h), fun h => hline (.inr h),
        if_neg hline⟩

/-- `unquote` reads back what `appendString` writes for one character. -/
theorem unquote_escapeChar (c : Char) (rest : List Char) :
    unquoteFrom .chars (escapeChar c ++ rest) = emit c (unquoteFrom .chars rest) := by
  have h0 : hexValue '0' = some 0 := rfl
  have h2 : hexValue '2' = some 2 := rfl
  rcases escapeChar_cases c with ⟨-, hsafe, he⟩ | ⟨hq, he⟩ | ⟨rfl, he⟩ | ⟨rfl, he⟩ | ⟨rfl, he⟩ |
    ⟨rfl, he⟩ | ⟨rfl, he⟩ | ⟨hascii, he⟩ | ⟨hline, he⟩ | ⟨hbig, -, -, he⟩ <;> rw [he]
  · simp only [htmlSafe, Bool.and_eq_true, decide_eq_true_eq, bne_iff_ne, ne_eq] at hsafe
    obtain ⟨⟨⟨⟨⟨⟨hlo, -⟩, hquote⟩, hback⟩, -⟩, -⟩, -⟩ := hsafe
    simp [unquoteFrom, inChars, hquote, hback, Nat.not_lt.2 hlo]
  · rcases hq with rfl | rfl <;> simp [unquoteFrom, inChars, inEscape, simpleEscape]
  iterate 5 simp [unquoteFrom, inChars, inEscape, simpleEscape]
  · have hcode : (c.toNat / 16) * 16 + c.toNat % 16 = c.toNat := Nat.div_add_mod' c.toNat 16
    simp [unquoteFrom, inChars, inEscape, simpleEscape, afterU, h0,
      hexValue_hex (c.toNat / 16) (by omega), hexValue_hex (c.toNat % 16) (by omega), hcode,
      show ¬ 0xD800 ≤ c.toNat by omega]
  · have hcode : c.toNat = 0x2028 ∨ c.toNat = 0x2029 := by
      rcases hline with rfl | rfl <;> decide
    have hval : 8224 + c.toNat % 16 = c.toNat := by omega
    simp [unquoteFrom, inChars, inEscape, simpleEscape, afterU, h0, h2,
      hexValue_hex (c.toNat % 16) (by omega), hval, show ¬ 0xD800 ≤ c.toNat by omega]
  · have hquote : c ≠ '"' := fun h => by subst h; exact absurd hbig (by decide)
    have hback : c ≠ '\\' := fun h => by subst h; exact absurd hbig (by decide)
    simp [unquoteFrom, inChars, hquote, hback, show ¬ c.toNat < 0x20 by omega]

/-- `unquote` reads back every string `appendString` writes, and stops at its closing quote. -/
theorem unquote_escaped (cs rest : List Char) :
    unquote (cs.flatMap escapeChar ++ '"' :: rest) = some (cs, rest) := by
  induction cs with
  | nil => simp [unquote, unquoteFrom, inChars]
  | cons c cs ih =>
    rw [unquote, List.flatMap_cons, List.append_assoc, unquote_escapeChar]
    rw [unquote] at ih
    rw [ih]; rfl

/-! ### Objects come back as the map they were written from -/

theorem appendString_append (s : String) (rest : List Char) :
    appendString s ++ rest = '"' :: (s.toList.flatMap escapeChar ++ '"' :: rest) := by
  simp [appendString]

theorem objectMembers_member (fuel : Nat) (m : List (String × String)) (k v : String) (d : Char)
    (rest : List Char) (hd : d = ',' ∨ d = '}') :
    objectMembers (fuel + 1) m (appendString k ++ ':' :: (appendString v ++ d :: rest)) =
      if d = ',' then objectMembers fuel (mapSet m k v) rest else some (mapSet m k v, rest) := by
  have hk : String.mk k.toList = k := rfl
  have hv : String.mk v.toList = v := rfl
  rcases hd with rfl | rfl <;>
    simp [objectMembers, appendString_append, token, skipSpace, isSpace, unquote_escaped,
      elemValue, hk, hv]

theorem length_le_encodeMembers : ∀ L : List (String × String), L.length ≤ (encodeMembers L).length
  | [] => le_refl _
  | [(_, _)] => by simp [encodeMembers, appendString]
  | (_, _) :: e :: rest => by
    have := length_le_encodeMembers (e :: rest)
    simp only [encodeMembers, List.length_append, List.length_cons] at this ⊢
    omega

/-- The member loop reads back every list of members `mapEncoder.encode` writes, storing them
in order. -/
theorem objectMembers_encodeMembers :
    ∀ (L : List (String × String)) (fuel : Nat) (m : List (String × String)) (rest : List Char),
      L ≠ [] → L.length ≤ fuel →
      objectMembers fuel m (encodeMembers L ++ '}' :: rest) =
        some (L.foldl (fun m e => mapSet m e.1 e.2) m, rest)
  | [], _, _, _, h, _ => absurd rfl h
  | [(k, v)], fuel + 1, m, rest, _, _ => by
    simp only [encodeMembers, List.append_assoc, List.cons_append]
    rw [objectMembers_member fuel m k v '}' rest (.inr rfl)]
    rfl
  | (k, v) :: e :: L, fuel + 1, m, rest, _, hfuel => by
    simp only [encodeMembers, List.append_assoc, List.cons_append]
    rw [objectMembers_member fuel m k v ',' _ (.inl rfl), if_pos rfl,
      objectMembers_encodeMembers (e :: L) fuel _ rest (List.cons_ne_nil _ _)
        (by simp only [List.length_cons] at hfuel ⊢; omega)]
    rfl

/-- `Unmarshal` reads back the text `Marshal` writes: the entries in the order written. -/
theorem unmarshal_marshalJSON (labels : List (String × String)) :
    unmarshal (marshalJSON labels) =
      some ((sortedEntries labels).foldl (fun m e => mapSet m e.1 e.2) []) := by
  have hlen := length_le_encodeMembers (sortedEntries labels)
  cases h : sortedEntries labels with
  | nil => simp [unmarshal, marshalJSON, h, labelsValue, skipSpace, isSpace, token, encodeMembers]
  | cons e L =>
    obtain ⟨k, v⟩ := e
    have hstart : ∃ t, encodeMembers ((k, v) :: L) = '"' :: t := by
      cases L <;> simp [encodeMembers, appendString]
    obtain ⟨t, ht⟩ := hstart
    rw [h, ht] at hlen
    have hmem := objectMembers_encodeMembers ((k, v) :: L) (t.length + 1 + 1 + 1) [] []
      (List.cons_ne_nil _ _) (by simp only [List.length_cons] at hlen ⊢; omega)
    rw [ht] at hmem
    simp only [List.cons_append, List.foldl_cons] at hmem
    simp [unmarshal, labelsValue, marshalJSON, h, ht, skipSpace, isSpace, token, String.length,
      hmem]

/-! ### The map read back -/

theorem lookup_mapSet (m : List (String × String)) (k v k' : String) :
    (mapSet m k v).lookup k' = if k' = k then some v else m.lookup k' := by
  by_cases h : k' = k
  · subst h; simp [mapSet]
  · simp [mapSet, List.lookup_cons, beq_false_of_ne h, h, lookup_filter_ne m h]

theorem lookup_foldl_mapSet (L m : List (String × String)) (k : String) :
    (L.foldl (fun m e => mapSet m e.1 e.2) m).lookup k = (L.reverse.lookup k).or (m.lookup k) := by
  induction L generalizing m with
  | nil => simp
  | cons e L ih =>
    obtain ⟨k', v'⟩ := e
    rw [List.foldl_cons, ih, List.reverse_cons, List.lookup_append, Option.or_assoc, lookup_mapSet]
    by_cases h : k = k' <;> simp [h, List.lookup_cons, beq_false_of_ne]

theorem lookup_eq_some_iff_mem {l : List (String × String)} (h : (l.map Prod.fst).Nodup)
    {k v : String} : l.lookup k = some v ↔ (k, v) ∈ l := by
  induction l with
  | nil => simp
  | cons e l ih =>
    obtain ⟨k', v'⟩ := e
    simp only [List.map_cons, List.nodup_cons, List.mem_map] at h
    by_cases hk : k = k'
    · subst hk
      have hnot : (k, v) ∉ l := fun hm => h.1 ⟨(k, v), hm, rfl⟩
      simp [hnot, eq_comm]
    · simp [List.lookup_cons, beq_false_of_ne hk, hk, ih h.2]

theorem lookup_eq_of_perm {l l' : List (String × String)} (hp : l.Perm l')
    (h : (l.map Prod.fst).Nodup) (k : String) : l.lookup k = l'.lookup k :=
  Option.ext fun _ => (lookup_eq_some_iff_mem h).trans
    (hp.mem_iff.trans (lookup_eq_some_iff_mem ((hp.map Prod.fst).nodup_iff.1 h)).symm)

theorem lookup_mapEntries (m : List (String × String)) (k : String) :
    (mapEntries m).lookup k = m.lookup k := by
  induction m with
  | nil => rfl
  | cons e m ih =>
    obtain ⟨k', v'⟩ := e
    by_cases h : k = k'
    · subst h; simp [mapEntries]
    · simp [mapEntries, List.lookup_cons, beq_false_of_ne h, lookup_filter_ne _ h, ih]

theorem nodup_mapEntries (m : List (String × String)) : ((mapEntries m).map Prod.fst).Nodup := by
  induction m with
  | nil => exact List.nodup_nil
  | cons e m ih =>
    refine List.nodup_cons.2 ⟨fun hm => ?_, (ih.sublist ((List.filter_sublist _).map _))⟩
    obtain ⟨x, hx, hxe⟩ := List.mem_map.1 hm
    have hne := (List.mem_filter.1 hx).2
    simp [hxe] at hne

theorem lookup_foldl_sortedEntries (labels : List (String × String)) (key : String) :
    ((sortedEntries labels).foldl (fun m e => mapSet m e.1 e.2) []).lookup key =
      labels.lookup key := by
  rw [lookup_foldl_mapSet, List.lookup_nil, Option.or_none, ← lookup_mapEntries labels key]
  exact (lookup_eq_of_perm ((List.perm_insertionSort _ _).symm.trans (List.reverse_perm _).symm)
    (nodup_mapEntries labels) key).symm

/-- `GetLabelsMap` on the labels `NewAlert` stored reads back the map `NewAlert` was given:
every key has the value it had, and a key it did not have is missing. -/
theorem getLabelsMap_marshalJSON (labels : List (String × String)) (key : String) :
    (getLabelsMap (marshalJSON labels)).lookup key = labels.lookup key := by
  rw [getLabelsMap, unmarshal_marshalJSON, Option.getD_some, lookup_foldl_sortedEntries]

/-- The model's `label` is what `alert.GetLabelsMap()[key]` reads from the text `NewAlert`
stored. -/
theorem mapGet_getLabelsMap {ν : Type} (a : Models.Alert ν) (key : String) :
    mapGet (getLabelsMap (marshalJSON a.labels)) key = a.label key := by
  simp [mapGet, Models.Alert.label, getLabelsMap_marshalJSON]

/-! ### The text depends on the map alone -/

theorem keyLess_irrefl : ∀ a : List Char, keyLess a a = false
  | [] => rfl
  | c :: cs => by simp [keyLess, keyLess_irrefl cs]

theorem keyLess_asymm : ∀ a b : List Char, keyLess a b = true → keyLess b a = false
  | _, [] => fun h => absurd h (by simp [keyLess])
  | [], _ :: _ => fun _ => rfl
  | c :: cs, d :: ds => by
    by_cases h : c = d
    · subst h; simpa [keyLess] using keyLess_asymm cs ds
    · simp only [keyLess, h, Ne.symm h, if_false, decide_eq_true_eq, decide_eq_false_iff_not]
      omega

theorem keyLess_total : ∀ a b : List Char, a ≠ b → keyLess a b = true ∨ keyLess b a = true
  | [], [] => fun h => absurd rfl h
  | [], _ :: _ => fun _ => .inl rfl
  | _ :: _, [] => fun _ => .inr rfl
  | c :: cs, d :: ds => fun hne => by
    by_cases h : c = d
    · subst h
      simpa [keyLess] using keyLess_total cs ds fun e => hne (e ▸ rfl)
    · have hcode : c.toNat ≠ d.toNat := fun e => h (by rw [← Char.ofNat_toNat c, e, Char.ofNat_toNat])
      simp only [keyLess, h, Ne.symm h, if_false, decide_eq_true_eq]
      omega

theorem keyLess_trans : ∀ a b c : List Char,
    keyLess a b = true → keyLess b c = true → keyLess a c = true
  | _, _, [] => fun _ h => absurd h (by simp [keyLess])
  | _, [], _ :: _ => fun h _ => absurd h (by simp [keyLess])
  | [], _ :: _, _ :: _ => fun _ _ => rfl
  | x :: xs, y :: ys, z :: zs => by
    by_cases hxy : x = y <;> by_cases hyz : y = z
    · subst hxy hyz; simpa [keyLess] using keyLess_trans xs ys zs
    · subst hxy; simp [keyLess, hyz]
    · subst hyz
      simp only [keyLess, hxy, if_false]
      exact fun h _ => h
    · intro hab hbc
      simp only [keyLess, hxy, hyz, if_false, decide_eq_true_eq] at hab hbc
      have hxz : x ≠ z := by rintro rfl; omega
      simp only [keyLess, hxz, if_false, decide_eq_true_eq]
      omega

theorem keyLess_split {a c : List Char} (h : keyLess a c = true) (b : List Char) :
    keyLess a b = true ∨ keyLess b c = true := by
  by_cases hab : a = b
  · exact .inr (hab ▸ h)
  · exact (keyLess_total a b hab).imp_right fun hba => keyLess_trans b a c hba h

instance : IsTotal (String × String) keyLE :=
  ⟨fun a b => by
    unfold keyLE
    cases h : keyLess b.1.toList a.1.toList
    · exact .inl rfl
    · exact .inr (keyLess_asymm _ _ h)⟩

instance : IsTrans (String × String) keyLE :=
  ⟨fun a b c hab hbc => by
    unfold keyLE at *
    cases h : keyLess c.1.toList a.1.toList
    · rfl
    · rcases keyLess_split h b.1.toList with h' | h' <;> simp_all⟩

/-- The strict order of distinct keys: the order of the entries in the text. -/
def keyLT (a b : String × String) : Prop := keyLess a.1.toList b.1.toList = true

instance : IsAntisymm (String × String) keyLT :=
  ⟨fun _ _ hab hba => absurd ((keyLess_asymm _ _ hab).symm.trans hba) Bool.false_ne_true⟩

/-- `Marshal` writes the keys in strictly increasing order. -/
theorem sortedEntries_sorted (m : List (String × String)) : (sortedEntries m).Sorted keyLT := by
  have hperm := List.perm_insertionSort keyLE (mapEntries m)
  have hne : (sortedEntries m).Pairwise fun a b => a.1 ≠ b.1 :=
    List.pairwise_map.1 ((hperm.map Prod.fst).nodup_iff.2 (nodup_mapEntries m))
  refine ((List.sorted_insertionSort keyLE (mapEntries m)).and hne).imp fun {a b} hab => ?_
  obtain ⟨hle, hkey⟩ := hab
  have htext : a.1.toList ≠ b.1.toList := fun e => hkey (congrArg String.mk e)
  exact (keyLess_total _ _ htext).resolve_right fun h =>
    absurd ((Eq.symm hle).trans h) Bool.false_ne_true

/-- Two maps that give every key the same value have the same entries, in the same order. -/
theorem sortedEntries_eq_of_lookup {m m' : List (String × String)}
    (h : ∀ k, m.lookup k = m'.lookup k) : sortedEntries m = sortedEntries m' := by
  have hperm : (mapEntries m).Perm (mapEntries m') := by
    rw [List.perm_ext_iff_of_nodup (nodup_mapEntries m).of_map (nodup_mapEntries m').of_map]
    rintro ⟨k, v⟩
    rw [← lookup_eq_some_iff_mem (nodup_mapEntries m), ← lookup_eq_some_iff_mem (nodup_mapEntries m'),
      lookup_mapEntries, lookup_mapEntries, h]
  exact List.eq_of_perm_of_sorted ((List.perm_insertionSort _ _).trans
    (hperm.trans (List.perm_insertionSort _ _).symm)) (sortedEntries_sorted m) (sortedEntries_sorted m')

theorem marshalJSON_eq_of_lookup {labels labels' : List (String × String)}
    (h : ∀ k, labels.lookup k = labels'.lookup k) : marshalJSON labels = marshalJSON labels' := by
  rw [marshalJSON, marshalJSON, sortedEntries_eq_of_lookup h]

theorem marshalJSON_ne_null (labels : List (String × String)) : marshalJSON labels ≠ "null" :=
  fun h => by
    have hd : (marshalJSON labels).data.head? = "null".data.head? := by rw [h]
    change some '{' = some 'n' at hd
    cases hd

theorem lookup_eq_of_marshalJSON_eq {labels labels' : List (String × String)}
    (h : marshalJSON labels = marshalJSON labels') (k : String) :
    labels.lookup k = labels'.lookup k := by
  have hu := congrArg unmarshal h
  rw [unmarshal_marshalJSON, unmarshal_marshalJSON, Option.some_inj] at hu
  rw [← lookup_foldl_sortedEntries labels k, hu, lookup_foldl_sortedEntries]

/-! ### What the encoder never writes -/

/-- A character `json.Marshal` may write as it is: not `<`, `>` or `&`, not a control
character, not `U+2028` or `U+2029`. -/
def Safe (c : Char) : Prop :=
  c ≠ '<' ∧ c ≠ '>' ∧ c ≠ '&' ∧ 0x20 ≤ c.toNat ∧ c ≠ '\u2028' ∧ c ≠ '\u2029'

instance : DecidablePred Safe := fun _ => inferInstanceAs (Decidable (_ ∧ _))

theorem safe_hex : ∀ n, n < 16 → Safe (hex n) := by decide

theorem safe_escapeChar (c : Char) : ∀ d ∈ escapeChar c, Safe d := by
  have hslash : Safe '\\' := by decide
  have hu : Safe 'u' := by decide
  have h0 : Safe '0' := by decide
  have h2 : Safe '2' := by decide
  rcases escapeChar_cases c with ⟨hascii, hsafe, he⟩ | ⟨hq, he⟩ | ⟨rfl, he⟩ | ⟨rfl, he⟩ |
    ⟨rfl, he⟩ | ⟨rfl, he⟩ | ⟨rfl, he⟩ | ⟨hascii, he⟩ | ⟨-, he⟩ | ⟨hbig, hl1, hl2, he⟩ <;> rw [he]
  · simp only [htmlSafe, Bool.and_eq_true, decide_eq_true_eq, bne_iff_ne, ne_eq] at hsafe
    obtain ⟨⟨⟨⟨⟨⟨hlo, -⟩, -⟩, -⟩, hlt⟩, hgt⟩, hamp⟩ := hsafe
    have hline : c ≠ '\u2028' ∧ c ≠ '\u2029' :=
      ⟨fun h => absurd hascii (by subst h; decide), fun h => absurd hascii (by subst h; decide)⟩
    simpa using ⟨hlt, hgt, hamp, hlo, hline⟩
  · rcases hq with rfl | rfl <;> decide
  iterate 5 decide
  · simp [hslash, hu, h0, safe_hex _ (show c.toNat / 16 < 16 by omega),
      safe_hex _ (show c.toNat % 16 < 16 by omega)]
  · simp [hslash, hu, h0, h2, safe_hex _ (show c.toNat % 16 < 16 by omega)]
  · simp only [List.mem_singleton, forall_eq]
    refine ⟨?_, ?_, ?_, by omega, hl1, hl2⟩ <;> rintro rfl <;> exact absurd hbig (by decide)

/-- The labels `NewAlert` stores never hold a raw `<`, `>`, `&`, control character, `U+2028` or
`U+2029`, whatever the labels are: `escapeHTML` escapes them all, so the text is safe to embed
in HTML and in JavaScript. -/
theorem marshalJSON_safe (labels : List (String × String)) :
    ∀ c ∈ (marshalJSON labels).toList, Safe c := by
  have hstring : ∀ s : String, ∀ c ∈ appendString s, Safe c := by
    intro s c hc
    simp only [appendString, List.mem_cons, List.mem_append, List.mem_flatMap,
      List.mem_singleton, List.not_mem_nil, or_false] at hc
    rcases hc with rfl | ⟨d, -, hd⟩ | rfl
    · decide
    · exact safe_escapeChar d c hd
    · decide
  have hmembers : ∀ L : List (String × String), ∀ c ∈ encodeMembers L, Safe c := by
    intro L
    induction L using encodeMembers.induct with
    | case1 => simp [encodeMembers]
    | case2 k v =>
      simp only [encodeMembers, List.mem_append, List.mem_cons]
      rintro c ((hc | rfl | hc))
      exacts [hstring k c hc, by decide, hstring v c hc]
    | case3 k v e rest ih =>
      simp only [encodeMembers, List.mem_append, List.mem_cons]
      rintro c (hc | rfl | hc | rfl | hc)
      exacts [hstring k c hc, by decide, hstring v c hc, by decide, ih c hc]
  intro c hc
  simp only [marshalJSON, String.toList, List.mem_cons, List.mem_append,
    List.mem_singleton, List.not_mem_nil, or_false] at hc
  rcases hc with rfl | hc | rfl
  · decide
  · exact hmembers _ c hc
  · decide

/-- A label holding a closing script tag is stored with its angle brackets escaped. -/
theorem marshalJSON_safe_scriptTag :
    marshalJSON [("app", "</script>")] = "\x7b\"app\":\"\\u003c/script\\u003e\"\x7d" ∧
      '\\' ∈ (marshalJSON [("app", "</script>")]).toList ∧ Safe '\\' :=
  ⟨by decide, by decide, marshalJSON_safe [("app", "</script>")] '\\' (by decide)⟩

end Json

end AlertPipeline
