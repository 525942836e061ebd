import Promotion.Diagnostic.Record
import Promotion.Proofs.JsonReading
/-!
# The text of a diagnostic

The record of a diagnostic is read back from its text (`Record.read_text`), whatever its strings hold and however many
notes it has, since each field is read back by its own reader (`readsValue_readField`) and no key comes twice.  The text
is JSON for the eight fields, and two diagnostics have the same text exactly if these are the same.
-/
namespace Promotion

open Json Json.Reader

namespace Record

theorem Field.ofName?_name (f : Field) : ofName? f.name.toList = some f := by
  cases f <;> decide

namespace Gathered

/-- With one more field of a record read. -/
def put (r : Record) (p : Gathered) : Field → Gathered
  | .code => { p with code := some r.code }
  | .severity => { p with severity := some r.severity }
  | .message => { p with message := some r.message }
  | .start => { p with start := some r.start }
  | .stop => { p with stop := some r.stop }
  | .line => { p with line := some r.line }
  | .column => { p with column := some r.column }
  | .notes => { p with notes := some r.notes }

theorem has_put (r : Record) (p : Gathered) {f g : Field} (h : f ≠ g) : (p.put r f).has g = p.has g := by
  cases f <;> cases g <;> first | rfl | exact absurd rfl h

/-- A field that is read takes nothing from the fields still to come, which are others. -/
theorem has_put_eq_false (r : Record) {p : Gathered} {f : Field} {fs : List Field} (hd : (f :: fs).Nodup)
    (hp : ∀ g ∈ f :: fs, p.has g = false) : ∀ g ∈ fs, (p.put r f).has g = false := by
  intro g hg
  have hne : f ≠ g := by
    rintro rfl
    exact (List.nodup_cons.1 hd).1 hg
  rw [has_put r p hne]
  exact hp g (List.mem_cons_of_mem f hg)

theorem complete?_put (r : Record) : (Field.all.foldl (put r) {}).complete? = some r := rfl

/-! ## One field -/

theorem readsValue_readField (r : Record) (p : Gathered) (f : Field) :
    ReadsValue (p.readField f) (r.value f) (p.put r f) := by
  have hmap : ∀ {α : Type} {rd : Reader α} {v : Value} {a : α} {q : Gathered} (g : α → Gathered), ReadsValue rd v a →
      g a = q → ReadsValue (do return g (← rd)) v q := by
    rintro α rd v a _ g h rfl ws depth rest hw hr
    exact (h ws depth rest hw hr).bind (.pure _ _)
  -- line and column are read as numbers of 64 bits first
  have hle : UInt32.size ≤ UInt64.size := by decide
  cases f with
  | code => exact hmap _ (readsValue_text r.code) rfl
  | severity => exact hmap _ (readsValue_text r.severity) rfl
  | message => exact hmap _ (readsValue_text r.message) rfl
  | start => exact hmap _ (readsValue_natBelow r.start.toNat_lt_size (Nat.le_refl _)) (by simp [put])
  | stop => exact hmap _ (readsValue_natBelow r.stop.toNat_lt_size (Nat.le_refl _)) (by simp [put])
  | line => exact hmap _ (readsValue_natBelow r.line.toNat_lt_size hle) (by simp [put])
  | column => exact hmap _ (readsValue_natBelow r.column.toNat_lt_size hle) (by simp [put])
  | notes => exact hmap _ (readsValue_texts r.notes) rfl

end Gathered

/-! ## All fields -/

variable (r : Record)

/-- A field on its line. -/
def fieldLine (depth : Nat) (f : Field) : List Char := Value.fieldLine depth (f.name.toList, r.value f)

theorem fieldLine_append (depth : Nat) (f : Field) (cs : List Char) : r.fieldLine depth f ++ cs =
    lineBreak depth ++ (quotedText f.name.toList ++ ':' :: ([' '] ++ ((r.value f).render depth ++ cs))) := by
  simp [fieldLine, Value.fieldLine]

namespace Gathered

theorem reads_readFields_cons {p q : Gathered} {f : Field} {isFirst : Bool} {n depth : Nat} {cs more rest : List Char}
    (hf : p.has f = false) (hm : EndsNumber more)
    (hk : Reads (fieldKey isFirst) cs (some f.name.toList) (':' :: ([' '] ++ ((r.value f).render depth ++ more))))
    (h : Reads (readFields false (p.put r f) n) more q rest) : Reads (readFields isFirst p (n + 1)) cs q rest := by
  have hs : IsSpace [' '] := by simp [IsSpace]
  refine hk.bind ?_
  simp only [Field.ofName?_name, hf]
  refine (reads_colon _).bind ?_
  exact (readsValue_readField r p f [' '] depth more hs hm).bind h

/-- The fields behind the first are read one by one, up to the closing brace. -/
theorem reads_readFields_later (depth : Nat) (rest : List Char) (fs : List Field) (hd : fs.Nodup) : ∀ p n,
    (∀ f ∈ fs, p.has f = false) → fs.length < n →
    Reads (readFields false p n) (fs.flatMap (fun f => ',' :: r.fieldLine (depth + 1) f) ++
      (lineBreak depth ++ '\x7d' :: rest)) (fs.foldl (put r) p) ('\x7d' :: rest) := by
  induction fs with
  | nil =>
    intro p n _ hn
    obtain ⟨n, rfl⟩ := Nat.exists_eq_add_one.2 hn
    exact (reads_fieldKey_end false (isSpace_lineBreak depth) rest).bind (.pure _ _)
  | cons f fs ih =>
    intro p n hp hn
    obtain ⟨n, rfl⟩ := Nat.exists_eq_add_one.2 (Nat.zero_lt_of_lt hn)
    rw [List.flatMap_cons, List.cons_append, List.cons_append, List.append_assoc, fieldLine_append]
    refine reads_readFields_cons r (hp f List.mem_cons_self) (endsNumber_flatMap fs _ depth _)
      (reads_fieldKey_later (isSpace_lineBreak (depth + 1)) _ _) ?_
    exact ih (List.nodup_cons.1 hd).2 _ n (has_put_eq_false r hd hp) (Nat.lt_of_succ_lt_succ hn)

theorem reads_readFields (depth : Nat) (rest : List Char) (f : Field) (fs : List Field) (hd : (f :: fs).Nodup) (n : Nat)
    (hn : fs.length < n) :
    Reads (readFields true {} (n + 1)) (r.fieldLine (depth + 1) f ++
      (fs.flatMap (fun f => ',' :: r.fieldLine (depth + 1) f) ++ (lineBreak depth ++ '\x7d' :: rest)))
      ((f :: fs).foldl (put r) {}) ('\x7d' :: rest) := by
  have hempty : ∀ g : Field, has {} g = false := by
    intro g
    cases g <;> rfl
  rw [fieldLine_append]
  refine reads_readFields_cons r (hempty f) (endsNumber_flatMap fs _ depth _)
    (reads_fieldKey_first (isSpace_lineBreak (depth + 1)) _ _) ?_
  exact reads_readFields_later r depth rest fs (List.nodup_cons.1 hd).2 _ n
    (has_put_eq_false r hd fun g _ => hempty g) hn

end Gathered

/-! ## The record -/

theorem render_toJson (depth : Nat) : r.toJson.render depth = '\x7b' :: (r.fieldLine (depth + 1) .code ++
    (Field.all.tail.flatMap (fun f => ',' :: r.fieldLine (depth + 1) f) ++ (lineBreak depth ++ ['\x7d']))) := by
  have hall : Field.all = .code :: Field.all.tail := rfl
  rw [toJson, hall, List.map_cons, Value.render_object_cons, List.flatMap_map]
  simp [fieldLine]

theorem readsValue_reader : ReadsValue reader r.toJson r := by
  intro ws depth rest hw _
  rw [render_toJson]
  simp only [List.cons_append, List.append_assoc, List.nil_append]
  refine (reads_next hw rfl rfl).bind ?_
  refine (reads_skip _ _).bind ((reads_get _).bind ?_)
  refine (Gathered.reads_readFields r depth rest .code Field.all.tail (by decide) _ ?_).bind ?_
  · have hlen := length_le_flatMap Field.all.tail (r.fieldLine (depth + 1))
    simp only [List.length_append, List.length_cons]
    omega
  · have hc : Reads (reader.complete (Field.all.foldl (Gathered.put r) {})) ('\x7d' :: rest) r ('\x7d' :: rest) := by
      rw [reader.complete, Gathered.complete?_put]
      exact .pure _ _
    exact hc.bind ((reads_skip _ _).bind (.pure r rest))

/-- **A record is read back from its text.** -/
theorem read_text : read r.text = .ok r := by
  have h : reader (r.toJson.render 0) = .ok (r, []) := by
    have h := readsValue_reader r [] 0 [] isSpace_nil (by simp [EndsNumber])
    rwa [List.nil_append, List.append_nil] at h
  have ht : r.text.toList = r.toJson.render 0 := by simp [text, Value.text]
  unfold read
  rw [ht, h]
  rfl

theorem text_inj {r r' : Record} : r.text = r'.text ↔ r = r' := by
  constructor
  · intro h
    have hr := r.read_text
    rw [h, r'.read_text] at hr
    exact (Except.ok.inj hr).symm
  · rintro rfl
    rfl

/-- The eight fields under their names, in order. -/
def datum : Datum := .object [
  ("code".toList, .string r.code.toList),
  ("severity".toList, .string r.severity.toList),
  ("message".toList, .string r.message.toList),
  ("start".toList, .number r.start.toNat 0),
  ("end".toList, .number r.stop.toNat 0),
  ("line".toList, .number r.line.toNat 0),
  ("column".toList, .number r.column.toNat 0),
  ("notes".toList, .array (r.notes.map fun n => .string n.toList))]

theorem isElement_text : IsElement r.text.toList r.datum := by
  have hd : r.toJson.datum = r.datum := by
    simp [toJson, Field.all, Field.name, value, Value.datum, datum]
  rw [← hd]
  exact r.toJson.isElement_text

end Record

namespace Diagnostic

theorem foldl_withHelp (helps : List String) : ∀ d : Diagnostic,
    helps.foldl withHelp d = { d with notes := d.notes ++ helps.map ("help: " ++ ·) } := by
  induction helps with
  | nil => simp
  | cons help helps ih =>
    intro d
    rw [List.foldl_cons, ih]
    simp [withHelp]

theorem record_eq_iff {d e : Diagnostic} : d.record = e.record ↔
    d.code = e.code ∧ d.severity = e.severity ∧ d.message = e.message ∧ d.span.start = e.span.start ∧
    d.span.stop = e.span.stop ∧ d.span.line = e.span.line ∧ d.span.column = e.span.column ∧ d.notes = e.notes := by
  have hs : d.severity.name = e.severity.name ↔ d.severity = e.severity := by
    cases d.severity <;> cases e.severity <;> decide
  simp only [record, Record.mk.injEq, hs]

/-- **The text of a diagnostic is JSON, and all eight fields can be read back from it.**  This holds of any diagnostic
and after any pieces of advice: the text denotes the object of the fields in order, reading it gives the record, and
another diagnostic has the same text exactly if it has the same fields. -/
theorem read_text_record (d : Diagnostic) (helps : List String) :
    let x := helps.foldl withHelp d
    let r : Record := ⟨d.code, d.severity.name, d.message, d.span.start, d.span.stop, d.span.line, d.span.column,
      d.notes ++ helps.map ("help: " ++ ·)⟩
    IsElement x.record.text.toList r.datum ∧ Record.read x.record.text = .ok r ∧
    ∀ y : Diagnostic, y.record.text = x.record.text ↔
      y.code = x.code ∧ y.severity = x.severity ∧ y.message = x.message ∧ y.span.start = x.span.start ∧
      y.span.stop = x.span.stop ∧ y.span.line = x.span.line ∧ y.span.column = x.span.column ∧ y.notes = x.notes := by
  intro x r
  have hr : x.record = r := congrArg record (foldl_withHelp helps d)
  refine ⟨?_, ?_, fun y => ?_⟩
  · rw [hr]
    exact r.isElement_text
  · rw [hr]
    exact r.read_text
  · rw [Record.text_inj]
    exact record_eq_iff

end Diagnostic

end Promotion
