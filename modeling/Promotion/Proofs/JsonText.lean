import Promotion.Json.Value
/-!
# JSON texts and what they denote

The grammar of JSON, as relations between a text and what it denotes: `IsElement cs x` says that `cs` is a JSON text for
`x`.  The grammar is the whole one, with all escapes, fractions and exponents, and blanks wherever they may stand.  An
escape of half a surrogate pair denotes no character, so no string here has one.

What is written keeps to the grammar: the text of a value, at any depth, denotes that value (`Value.isValue_render`).
-/
namespace Promotion.Json

/-! ## The grammar -/

/-- What a JSON text denotes.  A number is `mantissa · 10 ^ exponent`. -/
inductive Datum where
  | null
  | bool (value : Bool)
  | number (mantissa exponent : Int)
  | string (text : List Char)
  | array (items : List Datum)
  | object (fields : List (List Char × Datum))

def IsSpace (cs : List Char) : Prop := ∀ c ∈ cs, c ∈ [' ', '\n', '\r', '\t']

/-- A digit to the base sixteen, in either case. -/
def IsHexDigit (c : Char) (n : Nat) : Prop := n < 16 ∧ (c = n.digitChar ∨ c = n.digitChar.toUpper)

/-- The four digits of a code unit. -/
inductive IsCode : List Char → Nat → Prop
  | mk {a b c d : Char} {i j k l : Nat} (ha : IsHexDigit a i) (hb : IsHexDigit b j) (hc : IsHexDigit c k)
      (hd : IsHexDigit d l) : IsCode [a, b, c, d] (((i * 16 + j) * 16 + k) * 16 + l)

/-- A character of a string as it stands between the quotes. -/
inductive IsLetter : List Char → Char → Prop
  | plain {c : Char} (hc : 0x20 ≤ c.toNat) (hq : c ≠ '"') (hb : c ≠ '\\') : IsLetter [c] c
  | short {x c : Char} (h : (c, x) ∈ [('"', '"'), ('\\', '\\'), ('/', '/'), ('\x08', 'b'), ('\x0c', 'f'), ('\n', 'n'),
      ('\r', 'r'), ('\t', 't')]) : IsLetter ['\\', x] c
  | code {ds : List Char} {c : Char} (h : IsCode ds c.toNat) : IsLetter ('\\' :: 'u' :: ds) c
  | pair {ds es : List Char} {i j : Nat} {c : Char} (hi : i < 0x400) (hj : j < 0x400) (hd : IsCode ds (0xD800 + i))
      (he : IsCode es (0xDC00 + j)) (hc : c.toNat = 0x10000 + i * 0x400 + j) :
      IsLetter ('\\' :: 'u' :: ds ++ '\\' :: 'u' :: es) c

inductive AreLetters : List Char → List Char → Prop
  | nil : AreLetters [] []
  | cons {cs ds text : List Char} {c : Char} (h : IsLetter cs c) (hs : AreLetters ds text) :
      AreLetters (cs ++ ds) (c :: text)

inductive IsString : List Char → List Char → Prop
  | mk {cs text : List Char} (h : AreLetters cs text) : IsString ('"' :: cs ++ ['"']) text

def AreDigits (ds : List Char) : Prop := ds ≠ [] ∧ ∀ c ∈ ds, c.isDigit

/-- The fraction of a number, if it has one, with its digits. -/
inductive IsFraction : List Char → List Char → Prop
  | none : IsFraction [] []
  | some {ds : List Char} (h : AreDigits ds) : IsFraction ('.' :: ds) ds

/-- The exponent of a number, if it has one. -/
inductive IsExponent : List Char → Int → Prop
  | none : IsExponent [] 0
  | raised {e : Char} {sign ds : List Char} (he : e ∈ ['e', 'E']) (hs : sign ∈ [[], ['+']]) (h : AreDigits ds) :
      IsExponent (e :: sign ++ ds) (Nat.ofDigitChars 10 ds 0)
  | lowered {e : Char} {ds : List Char} (he : e ∈ ['e', 'E']) (h : AreDigits ds) :
      IsExponent (e :: '-' :: ds) (-Nat.ofDigitChars 10 ds 0)

/-- A number without its sign; before the point a zero leads only if it stands alone. -/
inductive IsMagnitude : List Char → Nat → Int → Prop
  | mk {ws fs ds es : List Char} {e : Int} (hw : AreDigits ws) (hz : ws.head? = some '0' → ws = ['0'])
      (hf : IsFraction fs ds) (he : IsExponent es e) :
      IsMagnitude (ws ++ fs ++ es) (Nat.ofDigitChars 10 (ws ++ ds) 0) (e - ds.length)

/-- Texts with commas between them. -/
inductive Separated {α : Type} (P : List Char → α → Prop) : List Char → List α → Prop
  | one {cs : List Char} {x : α} (h : P cs x) : Separated P cs [x]
  | cons {cs ds : List Char} {x : α} {xs : List α} (h : P cs x) (hs : Separated P ds xs) :
      Separated P (cs ++ ',' :: ds) (x :: xs)

mutual

inductive IsValue : List Char → Datum → Prop
  | null : IsValue ['n', 'u', 'l', 'l'] .null
  | true : IsValue ['t', 'r', 'u', 'e'] (.bool true)
  | false : IsValue ['f', 'a', 'l', 's', 'e'] (.bool false)
  | number {cs : List Char} {n : Nat} {e : Int} (h : IsMagnitude cs n e) : IsValue cs (.number n e)
  | negative {cs : List Char} {n : Nat} {e : Int} (h : IsMagnitude cs n e) : IsValue ('-' :: cs) (.number (-n) e)
  | string {cs text : List Char} (h : IsString cs text) : IsValue cs (.string text)
  | noItems {ws : List Char} (h : IsSpace ws) : IsValue ('[' :: ws ++ [']']) (.array [])
  | array {cs : List Char} {xs : List Datum} (h : Separated IsElement cs xs) : IsValue ('[' :: cs ++ [']']) (.array xs)
  | noFields {ws : List Char} (h : IsSpace ws) : IsValue ('\x7b' :: ws ++ ['\x7d']) (.object [])
  | object {cs : List Char} {fs : List (List Char × Datum)} (h : Separated IsMember cs fs) :
      IsValue ('\x7b' :: cs ++ ['\x7d']) (.object fs)

/-- A value with blanks around it.  A JSON text is one. -/
inductive IsElement : List Char → Datum → Prop
  | mk {ws cs ws' : List Char} {x : Datum} (hw : IsSpace ws) (h : IsValue cs x) (hw' : IsSpace ws') :
      IsElement (ws ++ cs ++ ws') x

inductive IsMember : List Char → List Char × Datum → Prop
  | mk {ws ks ws' cs : List Char} {key : List Char} {x : Datum} (hw : IsSpace ws) (hk : IsString ks key)
      (hw' : IsSpace ws') (h : IsElement cs x) : IsMember (ws ++ ks ++ ws' ++ ':' :: cs) (key, x)

end

/-! ## Strings and numbers that are written -/

theorem escapedChar_cases (c : Char) :
    (∃ x, (c, x) ∈ shortEscapes ∧ escapedChar c = ['\\', x]) ∨
    (c.toNat < 0x20 ∧
      escapedChar c = ['\\', 'u', '0', '0', Nat.digitChar (c.toNat / 16), Nat.digitChar (c.toNat % 16)]) ∨
    (0x20 ≤ c.toNat ∧ c ≠ '"' ∧ c ≠ '\\' ∧ escapedChar c = [c]) := by
  unfold escapedChar
  cases hl : shortEscapes.lookup c with
  | some x =>
    obtain ⟨l, l', hs, -⟩ := List.lookup_eq_some_iff.1 hl
    have hm : (c, x) ∈ shortEscapes := by
      rw [hs]
      simp
    exact .inl ⟨x, hm, rfl⟩
  | none =>
    have hn : ∀ e ∈ shortEscapes, c ≠ e.1 := fun e he => by simpa using List.lookup_eq_none_iff.1 hl e he
    by_cases hc : c.toNat < 0x20
    · exact .inr (.inl ⟨hc, if_pos hc⟩)
    · have hq : c ≠ '"' := hn ('"', '"') (by decide)
      have hb : c ≠ '\\' := hn ('\\', '\\') (by decide)
      exact .inr (.inr ⟨Nat.le_of_not_lt hc, hq, hb, if_neg hc⟩)

theorem isLetter_escapedChar (c : Char) : IsLetter (escapedChar c) c := by
  have hs : ∀ e ∈ shortEscapes, e ∈ [('"', '"'), ('\\', '\\'), ('/', '/'), ('\x08', 'b'), ('\x0c', 'f'), ('\n', 'n'),
    ('\r', 'r'), ('\t', 't')] := by decide
  obtain ⟨x, hx, h⟩ | ⟨hc, h⟩ | ⟨hc, hq, hb, h⟩ := escapedChar_cases c
  · rw [h]
    exact .short (hs _ hx)
  · have hd : ∀ n < 16, IsHexDigit n.digitChar n := fun n hn => ⟨hn, .inl rfl⟩
    have hcode := IsCode.mk (hd 0 (by omega)) (hd 0 (by omega)) (hd (c.toNat / 16) (by omega))
      (hd (c.toNat % 16) (by omega))
    have hn : ((0 * 16 + 0) * 16 + c.toNat / 16) * 16 + c.toNat % 16 = c.toNat := by omega
    rw [hn] at hcode
    rw [h]
    exact .code hcode
  · rw [h]
    exact .plain hc hq hb

theorem isString_quotedText (text : List Char) : IsString (quotedText text) text := by
  have h : AreLetters (text.flatMap escapedChar) text := by
    induction text with
    | nil => exact .nil
    | cons c cs ih =>
      rw [List.flatMap_cons]
      exact .cons (isLetter_escapedChar c) ih
  exact .mk h

theorem areDigits_toDigits (n : Nat) : AreDigits (Nat.toDigits 10 n) :=
  ⟨Nat.toDigits_ne_nil, fun _ hc => Nat.isDigit_of_mem_toDigits (by omega) (by omega) hc⟩

/-- A zero leads only the text of zero. -/
theorem toDigits_of_head?_zero {n : Nat} (h : (Nat.toDigits 10 n).head? = some '0') : Nat.toDigits 10 n = ['0'] := by
  induction n using Nat.strongRecOn with
  | ind n ih =>
    by_cases hn : n < 10
    · rw [Nat.toDigits_of_lt_base hn] at h ⊢
      rw [Option.some.inj h]
    · obtain ⟨d, ds, hd⟩ := List.exists_cons_of_ne_nil (Nat.toDigits_ne_nil (b := 10) (n := n / 10))
      rw [Nat.toDigits_of_base_le (by omega) (by omega), hd] at h
      -- what stands before the last digit would be a zero, but it is the text of a positive number
      have hz : Nat.toDigits 10 (n / 10) = ['0'] := ih (n / 10) (by omega) (by rw [hd]; exact h)
      have hv : Nat.ofDigitChars 10 (Nat.toDigits 10 (n / 10)) 0 = 0 := by
        rw [hz]
        rfl
      rw [Nat.ofDigitChars_ten_toDigits] at hv
      omega

theorem isMagnitude_toDigits (n : Nat) : IsMagnitude (Nat.toDigits 10 n) n 0 := by
  have h := IsMagnitude.mk (areDigits_toDigits n) toDigits_of_head?_zero .none .none
  simpa [Nat.ofDigitChars_ten_toDigits] using h

/-! ## Values that are written -/

theorem isSpace_nil : IsSpace [] := by simp [IsSpace]

theorem isSpace_lineBreak (depth : Nat) : IsSpace (lineBreak depth) := by
  intro c hc
  obtain rfl | hc := List.mem_cons.1 hc
  · decide
  · rw [(List.mem_replicate.1 hc).2]
    decide

/-- One text after the other, each behind a comma but for the first; blanks that follow them all go to the last. -/
theorem Separated.of_flatMap {α β : Type} {P : List Char → β → Prop} {body : α → List Char} {f : α → β}
    {ws : List Char} (hw : IsSpace ws) (xs : List α) : ∀ x : α,
    (∀ y ∈ x :: xs, ∀ ws, IsSpace ws → P (body y ++ ws) (f y)) →
    Separated P (body x ++ xs.flatMap (fun y => ',' :: body y) ++ ws) ((x :: xs).map f) := by
  induction xs with
  | nil =>
    intro x h
    rw [List.flatMap_nil, List.append_nil]
    exact .one (h x (List.mem_singleton_self x) ws hw)
  | cons y ys ih =>
    intro x h
    have hx := h x List.mem_cons_self [] isSpace_nil
    rw [List.append_nil] at hx
    have hs := Separated.cons hx (ih y fun z hz => h z (List.mem_cons_of_mem x hz))
    simpa using hs

namespace Value

/-- What a value denotes. -/
def datum : Value → Datum
  | string text => .string text
  | number n => .number n 0
  | array vs => .array (vs.map datum)
  | object fields => .object (fields.map fun f => (f.1, f.2.datum))
decreasing_by
  · decreasing_tactic
  · rename_i hf
    have hlt := List.sizeOf_lt_of_mem hf
    rw [Prod.mk.sizeOf_spec] at hlt
    simp
    omega

/-- An item on its line. -/
def itemLine (depth : Nat) (v : Value) : List Char := lineBreak depth ++ v.render depth

/-- A field on its line. -/
def fieldLine (depth : Nat) (f : List Char × Value) : List Char :=
  lineBreak depth ++ quotedText f.1 ++ [':', ' '] ++ f.2.render depth

theorem renderItems_eq (depth : Nat) : ∀ vs, renderItems depth vs = vs.flatMap fun v => ',' :: itemLine depth v
  | [] => rfl
  | v :: vs => by simp [renderItems, renderItems_eq depth vs, itemLine]

theorem renderFields_eq (depth : Nat) : ∀ fields,
    renderFields depth fields = fields.flatMap fun f => ',' :: fieldLine depth f
  | [] => rfl
  | (k, v) :: fields => by simp [renderFields, renderFields_eq depth fields, fieldLine]

theorem render_array_cons (depth : Nat) (v : Value) (vs : List Value) :
    (array (v :: vs)).render depth = '[' :: (itemLine (depth + 1) v ++
      vs.flatMap (fun v => ',' :: itemLine (depth + 1) v) ++ lineBreak depth) ++ [']'] := by
  simp [render, renderItems_eq, itemLine]

theorem render_object_cons (depth : Nat) (f : List Char × Value) (fields : List (List Char × Value)) :
    (object (f :: fields)).render depth = '\x7b' :: (fieldLine (depth + 1) f ++
      fields.flatMap (fun f => ',' :: fieldLine (depth + 1) f) ++ lineBreak depth) ++ ['\x7d'] := by
  simp [render, renderFields_eq, fieldLine]

/-- **The text of a value denotes the value**, at any depth. -/
theorem isValue_render (v : Value) (depth : Nat) : IsValue (v.render depth) v.datum := by
  induction v using datum.induct generalizing depth with
  | case1 text =>
    rw [render, datum]
    exact .string (isString_quotedText text)
  | case2 n =>
    rw [render, datum]
    exact .number (isMagnitude_toDigits n)
  | case3 vs ih =>
    rw [datum]
    cases vs with
    | nil => exact .noItems isSpace_nil
    | cons v vs =>
      rw [render_array_cons]
      refine .array (.of_flatMap (isSpace_lineBreak depth) vs v fun x hx ws hw => ?_)
      exact .mk (isSpace_lineBreak _) (ih x hx _) hw
  | case4 fields ih =>
    rw [datum]
    cases fields with
    | nil => exact .noFields isSpace_nil
    | cons f fields =>
      rw [render_object_cons]
      refine .object (.of_flatMap (isSpace_lineBreak depth) fields f fun x hx ws hw => ?_)
      have hs : IsSpace [' '] := by simp [IsSpace]
      have h := IsMember.mk (isSpace_lineBreak (depth + 1)) (isString_quotedText x.1) isSpace_nil
        (.mk hs (ih x hx (depth + 1)) hw)
      simpa [fieldLine] using h

theorem isElement_text (v : Value) : IsElement v.text.toList v.datum := by
  have h := IsElement.mk isSpace_nil (v.isValue_render 0) isSpace_nil
  simpa [text] using h

end Value

end Promotion.Json
