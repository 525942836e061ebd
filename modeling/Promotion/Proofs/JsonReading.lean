import Mathlib.Data.List.TakeDrop
import Promotion.Json.Reader
import Promotion.Proofs.JsonText
/-!
# Reading what is written

`Reads r cs a rest` says that the reader `r` takes `a` off the front of `cs` and leaves `rest`, and goes along the steps
of a reader by `Reads.bind`.  A reader reads a value, as `ReadsValue` says it, if it takes the text of the value off
from wherever that may stand in a longer text: with blanks before it, at any depth, and before anything that does not
go on with a number.  Strings, natural numbers of 64 bits and arrays of strings are read back from their texts, and so
are the keys of objects.
-/
namespace Promotion.Json

/-! ## Strings -/

section StringBody

variable {c : Char} {cs text rest : List Char} (h : stringBody cs = .ok (text, rest))

include h

theorem stringBody_short {x : Char} (hu : x ≠ 'u') (hx : unescaped? x = some c) :
    stringBody ('\\' :: x :: cs) = .ok (c :: text, rest) := by
  rw [stringBody]
  · rw [hx, h]
    rfl
  · intro a b x y ds hd
    simp [hu] at hd
  · simpa using hu

theorem stringBody_plain (hc : 0x20 ≤ c.toNat) (hq : c ≠ '"') (hb : c ≠ '\\') :
    stringBody (c :: cs) = .ok (c :: text, rest) := by
  rw [stringBody]
  · rw [if_neg (Nat.not_lt.2 hc), h]
    rfl
  · exact hq
  all_goals intros; contradiction

theorem stringBody_control (hc : c.toNat < 0x20) :
    stringBody ('\\' :: 'u' :: '0' :: '0' :: Nat.digitChar (c.toNat / 16) :: Nat.digitChar (c.toNat % 16) :: cs) =
      .ok (c :: text, rest) := by
  have hcode : ∀ n < 0x20, hexCode? '0' '0' (Nat.digitChar (n / 16)) (Nat.digitChar (n % 16)) = some n ∧
    isHighSurrogate n = false ∧ isLowSurrogate n = false := by decide
  obtain ⟨hn, hhigh, hlow⟩ := hcode c.toNat hc
  rw [stringBody, hn]
  simp only [hhigh, hlow, h, Char.ofNat_toNat]
  rfl

/-- A character is read back, whichever way it is escaped. -/
theorem stringBody_escapedChar : stringBody (escapedChar c ++ cs) = .ok (c :: text, rest) := by
  have hs : ∀ e ∈ shortEscapes, e.2 ≠ 'u' ∧ unescaped? e.2 = some e.1 := by decide
  obtain ⟨x, hx, he⟩ | ⟨hc, he⟩ | ⟨hc, hq, hb, he⟩ := escapedChar_cases c
  · obtain ⟨hu, hx⟩ := hs _ hx
    rw [he]
    exact stringBody_short h hu hx
  · rw [he]
    exact stringBody_control h hc
  · rw [he]
    exact stringBody_plain h hc hq hb

end StringBody

theorem stringBody_flatMap (text rest : List Char) :
    stringBody (text.flatMap escapedChar ++ '"' :: rest) = .ok (text, rest) := by
  induction text with
  | nil => rfl
  | cons c text ih =>
    rw [List.flatMap_cons, List.append_assoc]
    exact stringBody_escapedChar ih

/-! ## Digits -/

/-- All digits are taken as long as the number they make up has 64 bits. -/
theorem takeDigits_of_lt (ds : List Char) : ∀ n, Nat.ofDigitChars 10 ds n < UInt64.size →
    takeDigits n ds = (Nat.ofDigitChars 10 ds n, []) := by
  induction ds with
  | nil =>
    intro n _
    rw [takeDigits, Nat.ofDigitChars_nil]
  | cons d ds ih =>
    intro n hn
    rw [Nat.ofDigitChars_cons, Nat.mul_comm] at hn ⊢
    have hle : n * 10 + (d.toNat - '0'.toNat) ≤ Nat.ofDigitChars 10 ds (n * 10 + (d.toNat - '0'.toNat)) := by
      rw [Nat.ofDigitChars_eq_ofDigitChars_zero]
      exact Nat.le_add_right_of_le (Nat.le_mul_of_pos_left _ (Nat.pow_pos (by omega)))
    rw [takeDigits, if_pos (Nat.lt_of_le_of_lt hle hn), ih _ hn]

/-- A number is written with a digit first. -/
theorem exists_toDigits_eq_cons (n : Nat) : ∃ d ds, Nat.toDigits 10 n = d :: ds ∧ d.isDigit = true := by
  obtain ⟨hne, hd⟩ := areDigits_toDigits n
  obtain ⟨d, ds, hds⟩ := List.exists_cons_of_ne_nil hne
  exact ⟨d, ds, hds, hd d (by simp [hds])⟩

/-- A text that does not go on with a number. -/
def EndsNumber (rest : List Char) : Prop :=
  ∀ c, rest.head? = some c → c.isDigit = false ∧ c ≠ '.' ∧ c ≠ 'e' ∧ c ≠ 'E'

/-! ## What a reader takes off -/

namespace Reader

/-- The reader takes `a` off the front of the text and leaves the rest. -/
def Reads {α : Type} (r : Reader α) (cs : List Char) (a : α) (rest : List Char) : Prop := r.run cs = .ok (a, rest)

theorem Reads.pure {α : Type} (a : α) (cs : List Char) : Reads (pure a) cs a cs := rfl

theorem Reads.bind {α β : Type} {r : Reader α} {f : α → Reader β} {a : α} {b : β} {cs cs' rest : List Char}
    (h : Reads r cs a cs') (hf : Reads (f a) cs' b rest) : Reads (r >>= f) cs b rest := by
  rw [Reads, StateT.run_bind, h]
  exact hf

theorem reads_skip (c : Char) (cs : List Char) : Reads skip (c :: cs) () cs := rfl

theorem reads_get (cs : List Char) : Reads get cs cs cs := rfl

theorem reads_peek (cs : List Char) : Reads peek cs cs.head? cs := rfl

theorem reads_next {ws cs : List Char} {c : Char} (hw : IsSpace ws) (hc : cs.head? = some c) (hb : isBlank c = false) :
    Reads next (ws ++ cs) c cs := by
  have hws : ∀ c ∈ ws, isBlank c = true := by
    intro c hc
    have hm := hw c hc
    simp only [List.mem_cons, List.not_mem_nil, or_false] at hm
    obtain rfl | rfl | rfl | rfl := hm <;> rfl
  have hd : (ws ++ cs).dropWhile isBlank = cs := by
    obtain ⟨ds, rfl⟩ := List.head?_eq_some_iff.1 hc
    rw [List.dropWhile_append_of_pos hws, List.dropWhile_cons_of_neg (by simp [hb])]
  have hs : Reads skipBlanks (ws ++ cs) () ((ws ++ cs).dropWhile isBlank) := rfl
  rw [hd] at hs
  refine hs.bind ((reads_peek cs).bind ?_)
  rw [hc]
  exact .pure c cs

theorem reads_string (text rest : List Char) : Reads string (quotedText text ++ rest) text rest := by
  have hq : quotedText text ++ rest = '"' :: (text.flatMap escapedChar ++ '"' :: rest) := by simp [quotedText]
  rw [hq]
  exact (reads_skip _ _).bind (stringBody_flatMap text rest)

/-! ## Numbers -/

theorem reads_takeWhile {p : Char → Bool} {ds rest : List Char} (hd : ∀ c ∈ ds, p c = true)
    (hr : ∀ c, rest.head? = some c → p c = false) : Reads (takeWhile p) (ds ++ rest) ds rest := by
  have ht : rest.takeWhile p = [] ∧ rest.dropWhile p = rest := by
    cases rest with
    | nil => exact ⟨rfl, rfl⟩
    | cons c rest => simp [hr c rfl]
  have h : Reads (takeWhile p) (ds ++ rest) ((ds ++ rest).takeWhile p) ((ds ++ rest).dropWhile p) := by
    rw [Reads, takeWhile]
    exact congrArg Except.ok (List.span_eq_takeWhile_dropWhile _ _)
  rwa [List.takeWhile_append_of_pos hd, List.dropWhile_append_of_pos hd, ht.1, ht.2, List.append_nil] at h

section Digits

variable {n : Nat} {rest : List Char} (hr : EndsNumber rest)

include hr

theorem reads_wholeDigits : Reads wholeDigits (Nat.toDigits 10 n ++ rest) (Nat.toDigits 10 n) rest := by
  obtain ⟨hne, hd⟩ := areDigits_toDigits n
  have hds : Reads digits (Nat.toDigits 10 n ++ rest) (Nat.toDigits 10 n) rest := by
    refine (reads_takeWhile hd fun c hc => (hr c hc).1).bind ?_
    rw [if_neg (by simp)]
    exact .pure _ _
  refine hds.bind ?_
  have hz : ¬(1 < (Nat.toDigits 10 n).length && (Nat.toDigits 10 n).head? = some '0') = true := by
    intro h
    simp only [Bool.and_eq_true, decide_eq_true_eq] at h
    rw [toDigits_of_head?_zero h.2] at h
    exact absurd h.1 (by decide)
  rw [if_neg hz]
  exact .pure _ _

theorem reads_fraction (n : Nat) : Reads (fraction n 0) rest (.natural n) rest := by
  refine (reads_peek rest).bind ?_
  cases rest with
  | nil => rfl
  | cons c rest =>
    obtain ⟨-, hp, he, hE⟩ := hr c rfl
    rw [List.head?_cons]
    split
    · rename_i h
      exact absurd (Option.some.inj h) hp
    · rename_i h
      exact absurd (Option.some.inj h) he
    · rename_i h
      exact absurd (Option.some.inj h) hE
    · exact .pure _ _

theorem reads_number (hn : n < UInt64.size) : Reads number (Nat.toDigits 10 n ++ rest) (.natural n) rest := by
  have hneg : (Nat.toDigits 10 n ++ rest).head? ≠ some '-' := by
    obtain ⟨d, ds, hds, hdigit⟩ := exists_toDigits_eq_cons n
    rw [hds]
    intro h
    rw [Option.some.inj h] at hdigit
    exact absurd hdigit (by decide)
  have ht : takeDigits 0 (Nat.toDigits 10 n) = (n, []) := by
    have h := takeDigits_of_lt (Nat.toDigits 10 n) 0
    rw [Nat.ofDigitChars_ten_toDigits] at h
    exact h hn
  refine (reads_peek _).bind ?_
  simp only [if_neg hneg]
  refine (reads_wholeDigits hr).bind ?_
  rw [ht]
  exact (reads_fraction hr n).bind (.pure _ _)

end Digits

/-! ## Values -/

theorem isBlank_of_isDigit {c : Char} (h : c.isDigit = true) : isBlank c = false := by
  by_contra hb
  simp only [isBlank, Bool.not_eq_false, Bool.or_eq_true, decide_eq_true_eq] at hb
  rcases hb with ((rfl | rfl) | rfl) | rfl <;> exact absurd h (by decide)

/-- No value starts with a blank or with the end of an array. -/
theorem exists_head?_render (v : Value) (depth : Nat) (rest : List Char) :
    ∃ c, (v.render depth ++ rest).head? = some c ∧ isBlank c = false ∧ c ≠ ']' := by
  cases v with
  | string text => exact ⟨'"', by simp [Value.render, quotedText], by decide⟩
  | number n =>
    obtain ⟨d, ds, hds, hdigit⟩ := exists_toDigits_eq_cons n
    refine ⟨d, by simp [Value.render, hds], isBlank_of_isDigit hdigit, ?_⟩
    rintro rfl
    exact absurd hdigit (by decide)
  | array vs => cases vs <;> exact ⟨'[', by simp [Value.render], by decide⟩
  | object fields =>
    cases fields with
    | nil => exact ⟨'\x7b', by simp [Value.render], by decide⟩
    | cons f fields => exact ⟨'\x7b', by simp [Value.render_object_cons], by decide⟩

/-- The reader takes the text of `v` for `a`, wherever it stands. -/
def ReadsValue {α : Type} (r : Reader α) (v : Value) (a : α) : Prop :=
  ∀ ws depth rest, IsSpace ws → EndsNumber rest → Reads r (ws ++ (v.render depth ++ rest)) a rest

theorem readsValue_text (t : String) : ReadsValue text (.string t.toList) t := by
  intro ws depth rest hw _
  rw [Value.render]
  refine (reads_next hw rfl rfl).bind ?_
  rw [if_pos rfl]
  refine (reads_string t.toList rest).bind ?_
  rw [String.ofList_toList]
  exact .pure t rest

theorem readsValue_natBelow {n bound : Nat} (hn : n < bound) (hb : bound ≤ UInt64.size) :
    ReadsValue (natBelow bound) (.number n) n := by
  intro ws depth rest hw hr
  obtain ⟨d, ds, hds, hdigit⟩ := exists_toDigits_eq_cons n
  have hhead : (Nat.toDigits 10 n ++ rest).head? = some d := by
    rw [hds]
    rfl
  rw [Value.render]
  refine (reads_next hw hhead (isBlank_of_isDigit hdigit)).bind ?_
  rw [if_pos (by simp [hdigit])]
  refine (reads_number hr (Nat.lt_of_lt_of_le hn hb)).bind ?_
  simp only [if_pos hn]
  exact .pure n rest

/-! ## Arrays -/

theorem reads_hasItem_end (isFirst : Bool) {ws : List Char} (hw : IsSpace ws) (rest : List Char) :
    Reads (hasItem isFirst) (ws ++ ']' :: rest) false (']' :: rest) :=
  (reads_next hw rfl rfl).bind (.pure _ _)

section HasItem

variable {ws cs : List Char} {c : Char} (hw : IsSpace ws) (hc : cs.head? = some c) (hb : isBlank c = false)
  (hn : c ≠ ']')

include hw hc hb hn

theorem reads_hasItem_first : Reads (hasItem true) (ws ++ cs) true cs := by
  refine (reads_next hw hc hb).bind ?_
  rw [if_neg hn]
  exact .pure _ _

theorem reads_hasItem_later : Reads (hasItem false) (',' :: (ws ++ cs)) true cs := by
  refine (reads_next isSpace_nil rfl rfl).bind ?_
  refine (reads_skip _ _).bind ?_
  refine (reads_next hw hc hb).bind ?_
  rw [if_neg hn]
  exact .pure _ _

end HasItem

/-- Behind a value there is a comma or the end of its line. -/
theorem endsNumber_flatMap {α : Type} (xs : List α) (body : α → List Char) (depth : Nat) (cs : List Char) :
    EndsNumber (xs.flatMap (fun x => ',' :: body x) ++ (lineBreak depth ++ cs)) := by
  intro c hc
  have hm : c = ',' ∨ c = '\n' := by
    cases xs with
    | nil => exact .inr (Option.some.inj hc).symm
    | cons x xs => exact .inl (Option.some.inj hc).symm
  obtain rfl | rfl := hm <;> decide

theorem length_le_flatMap {α : Type} (xs : List α) (body : α → List Char) :
    xs.length ≤ (xs.flatMap fun x => ',' :: body x).length := by
  induction xs with
  | nil => exact Nat.le_refl 0
  | cons x xs ih =>
    rw [List.flatMap_cons, List.length_append, List.length_cons, List.length_cons]
    omega

section Items

variable {α : Type} {item : Reader α} {value : α → Value}

theorem reads_items_cons {a : α} {as : List α} {isFirst : Bool} {n depth : Nat} {cs more rest : List Char}
    (h : Reads (hasItem isFirst) cs true ((value a).render depth ++ more)) (ha : ReadsValue item (value a) a)
    (hm : EndsNumber more) (has : Reads (items item false n) more as rest) :
    Reads (items item isFirst (n + 1)) cs (a :: as) rest := by
  refine h.bind ?_
  rw [if_pos rfl]
  refine (ha [] depth more isSpace_nil hm).bind ?_
  exact has.bind (.pure _ _)

theorem reads_items_later (depth : Nat) (rest : List Char) (as : List α)
    (ha : ∀ a ∈ as, ReadsValue item (value a) a) : ∀ n, as.length < n →
    Reads (items item false n) (as.flatMap (fun a => ',' :: Value.itemLine (depth + 1) (value a)) ++
      (lineBreak depth ++ ']' :: rest)) as (']' :: rest) := by
  induction as with
  | nil =>
    intro n hn
    obtain ⟨n, rfl⟩ := Nat.exists_eq_add_one.2 hn
    exact (reads_hasItem_end false (isSpace_lineBreak depth) rest).bind (.pure _ _)
  | cons a as ih =>
    intro n hn
    obtain ⟨n, rfl⟩ := Nat.exists_eq_add_one.2 (Nat.zero_lt_of_lt hn)
    rw [List.flatMap_cons, List.append_assoc, List.cons_append, Value.itemLine, List.append_assoc]
    obtain ⟨c, hc, hb, hne⟩ := exists_head?_render (value a) (depth + 1) _
    refine reads_items_cons (reads_hasItem_later (isSpace_lineBreak _) hc hb hne) (ha a List.mem_cons_self)
      (endsNumber_flatMap as _ depth _) ?_
    exact ih (fun b hb => ha b (List.mem_cons_of_mem a hb)) n (Nat.lt_of_succ_lt_succ hn)

theorem reads_items (depth : Nat) (rest : List Char) (a : α) (as : List α)
    (ha : ∀ b ∈ a :: as, ReadsValue item (value b) b) {n : Nat} (hn : as.length < n) :
    Reads (items item true (n + 1)) (Value.itemLine (depth + 1) (value a) ++
      (as.flatMap (fun a => ',' :: Value.itemLine (depth + 1) (value a)) ++ (lineBreak depth ++ ']' :: rest)))
      (a :: as) (']' :: rest) := by
  rw [Value.itemLine, List.append_assoc]
  obtain ⟨c, hc, hb, hne⟩ := exists_head?_render (value a) (depth + 1) _
  refine reads_items_cons (reads_hasItem_first (isSpace_lineBreak _) hc hb hne) (ha a List.mem_cons_self)
    (endsNumber_flatMap as _ depth _) ?_
  exact reads_items_later depth rest as (fun b hb => ha b (List.mem_cons_of_mem a hb)) n hn

end Items

theorem reads_texts {ws cs rest : List Char} {ts : List String} (hw : IsSpace ws)
    (h : Reads (items text true (cs.length + 1)) cs ts (']' :: rest)) : Reads texts (ws ++ '[' :: cs) ts rest := by
  refine (reads_next hw rfl rfl).bind ?_
  rw [if_pos rfl]
  refine (reads_skip _ _).bind ((reads_get cs).bind (h.bind ?_))
  have hend : Reads arrayEnd (']' :: rest) () rest := by
    refine (reads_next isSpace_nil rfl rfl).bind ?_
    exact reads_skip ']' rest
  exact hend.bind (.pure ts rest)

theorem readsValue_texts (ts : List String) : ReadsValue texts (.array (ts.map fun t => .string t.toList)) ts := by
  intro ws depth rest hw _
  cases ts with
  | nil => exact reads_texts hw ((reads_hasItem_end true isSpace_nil rest).bind (.pure [] _))
  | cons t ts =>
    rw [List.map_cons, Value.render_array_cons, List.flatMap_map]
    simp only [List.cons_append, List.append_assoc, List.nil_append]
    refine reads_texts hw (reads_items depth rest t ts (fun u _ => readsValue_text u) ?_)
    have hlen := length_le_flatMap ts fun u => Value.itemLine (depth + 1) (.string u.toList)
    simp only [List.length_append, List.length_cons]
    omega

/-! ## Fields of objects -/

theorem reads_fieldKey_end (isFirst : Bool) {ws : List Char} (hw : IsSpace ws) (rest : List Char) :
    Reads (fieldKey isFirst) (ws ++ '\x7d' :: rest) none ('\x7d' :: rest) :=
  (reads_next hw rfl rfl).bind (.pure _ _)

section FieldKey

variable {ws : List Char} (hw : IsSpace ws) (key rest : List Char)

include hw

theorem reads_fieldKey_first : Reads (fieldKey true) (ws ++ (quotedText key ++ rest)) (some key) rest := by
  refine (reads_next hw rfl rfl).bind ?_
  refine (reads_next isSpace_nil rfl rfl).bind ?_
  exact (reads_string key rest).bind (.pure _ _)

theorem reads_fieldKey_later : Reads (fieldKey false) (',' :: (ws ++ (quotedText key ++ rest))) (some key) rest := by
  refine (reads_next isSpace_nil rfl rfl).bind ?_
  refine (reads_skip _ _).bind ?_
  refine (reads_next hw rfl rfl).bind ?_
  exact (reads_string key rest).bind (.pure _ _)

end FieldKey

theorem reads_colon (rest : List Char) : Reads colon (':' :: rest) () rest := by
  refine (reads_next isSpace_nil rfl rfl).bind ?_
  exact reads_skip ':' rest

end Reader

end Promotion.Json
