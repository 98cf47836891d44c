import TestScout.Proofs.Walk.Call

/-!
Where what is found lies. The name of a declaration is read from between the quotes of its literal,
and what is read lies in the text: the literal has room for its two quotes and ends at most one byte
after the text does.
-/

namespace TestScout

lemma offset_of_pos? {text : String} {i : Nat} {p : text.Pos} (h : text.pos? ⟨i⟩ = some p) :
    p.offset.byteIdx = i := by
  unfold String.pos? String.Slice.pos? at h
  split at h
  · obtain rfl := Option.some.inj h
    rfl
  · cases h

lemma le_of_pos? {text : String} {i : Nat} {p : text.Pos} (h : text.pos? ⟨i⟩ = some p) :
    i ≤ text.utf8ByteSize := by
  have hle : p.offset.byteIdx ≤ text.utf8ByteSize := p.isValid.le_rawEndPos
  rwa [offset_of_pos? h] at hle

lemma Span.stop_le_of_text? {s : Span} {text part : String} (h : s.text? text = some part) :
    s.stop ≤ text.utf8ByteSize := by
  obtain ⟨a, -, h⟩ := Option.bind_eq_some_iff.mp h
  obtain ⟨b, hb, -⟩ := Option.bind_eq_some_iff.mp h
  exact le_of_pos? hb

/-- The stretch is as long as two quotes at least, and there is text up to its last byte. -/
def Span.Quotes (s : Span) (text : String) : Prop :=
  s.start + 2 ≤ s.stop ∧ s.stop ≤ text.utf8ByteSize + 1

lemma quotes_of_literalText? {text name : String} {n : Syntax.Node}
    (h : literalText? text n = some name) : n.span.Quotes text := by
  obtain ⟨-, hquotes, body, hbody, -⟩ := Walk.literalText?_eq_some_iff.mp h
  have hstop : n.span.stop - 1 ≤ text.utf8ByteSize := Span.stop_le_of_text? hbody
  exact ⟨hquotes, by omega⟩

namespace Walk

variable {m : Markers} {file : Path} {text : String} {tree : Syntax.Node} {d : Declaration}

lemma exists_of_mem_through (h : d ∈ (through m file text tree never).declarations) :
    ∃ path n, declaration? m file text path n = some d := by
  rw [through_never, found_eq_filterMap, List.mem_filterMap] at h
  obtain ⟨e, -, he⟩ := h
  exact ⟨e.2, e.1, he⟩

/-- **Where declarations lie**: what a walk finds is in the file that is walked through, at a
literal in its text. -/
theorem file_and_span_of_mem_through (h : d ∈ (through m file text tree never).declarations) :
    d.file = file ∧ d.span.Quotes text := by
  obtain ⟨path, n, hn⟩ := exists_of_mem_through h
  obtain ⟨kind, literal, function, name, -, -, hname, rfl⟩ := declaration?_eq_some_iff.mp hn
  exact ⟨rfl, quotes_of_literalText? hname⟩

end Walk

end TestScout
