import EntityForge.Template.Basic
import Mathlib.Logic.Function.Basic
import Mathlib.Tactic.SplitIfs

/-! Texts that are written into sources can be read back. A string literal is read up to the quote that
nothing escapes, an annotation string up to the quote that is not doubled, and both end there; in an
attribute value every reference is replaced by its character. What was written in several replacements,
one after the other, is the same as the text escaped in one pass. -/
namespace EntityForge

namespace Text

def replacing (old : Char) (new : List Char) (s : List Char) : List Char :=
  s.flatMap fun c => if c = old then new else [c]

def ReadsBack (read : List Char → Option (List Char × List Char)) (written s : String) : Prop :=
  ∃ inside, written.toList = '"' :: inside ∧ read inside = some (s.toList, [])

def references : List String := ["&amp;", "&lt;", "&gt;", "&#34;", "&#39;"]

def readReferences : List Char → List Char
  | '&' :: 'a' :: 'm' :: 'p' :: ';' :: rest => '&' :: readReferences rest
  | '&' :: 'l' :: 't' :: ';' :: rest => '<' :: readReferences rest
  | '&' :: 'g' :: 't' :: ';' :: rest => '>' :: readReferences rest
  | '&' :: '#' :: '3' :: '4' :: ';' :: rest => '"' :: readReferences rest
  | '&' :: '#' :: '3' :: '9' :: ';' :: rest => '\'' :: readReferences rest
  | c :: rest => c :: readReferences rest
  | [] => []

section Escapes
variable (s : List Char)

theorem escapeReplaced :
    escapeLiteral s = replacing '"' ['\\', '"'] (replacing '\\' ['\\', '\\'] s) := by
  induction s with
  | nil => rfl
  | cons c rest ih =>
    by_cases slash : c = '\\'
    · subst slash
      simpa [escapeLiteral, replacing] using ih
    · by_cases quote : c = '"'
      · subst quote
        simpa [escapeLiteral, replacing] using ih
      · simpa [escapeLiteral, replacing, slash, quote] using ih

theorem doubleReplaced : doubleQuotes s = replacing '"' ['"', '"'] s := by
  induction s with
  | nil => rfl
  | cons c rest ih =>
    rw [doubleQuotes, ih]
    by_cases quote : c = '"' <;> simp [replacing, quote]

theorem readLiteralPlain {c : Char} (quote : c ≠ '"') (slash : c ≠ '\\') (rest : List Char) :
    readLiteral (c :: rest) = (readLiteral rest).map fun (s, tail) => (c :: s, tail) := by
  rw [readLiteral]
  · exact quote
  · exact fun _ _ same => absurd same slash

theorem readLiteralEscaped (tail : List Char) :
    readLiteral (escapeLiteral s ++ '"' :: tail) = some (s, tail) := by
  induction s with
  | nil => rfl
  | cons c rest ih =>
    rw [escapeLiteral]
    split
    next => simp [readLiteral, ih]
    next plain =>
      rw [not_or] at plain
      rw [List.cons_append, readLiteralPlain plain.2 plain.1, ih]
      rfl

theorem readDoubledPlain {c : Char} (quote : c ≠ '"') (rest : List Char) :
    readDoubled (c :: rest) = (readDoubled rest).map fun (s, tail) => (c :: s, tail) := by
  rw [readDoubled]
  · exact fun _ same => absurd same quote
  · exact quote

theorem readDoubledQuotes {tail : List Char} (apart : tail.head? ≠ some '"') :
    readDoubled (doubleQuotes s ++ '"' :: tail) = some (s, tail) := by
  induction s with
  | nil =>
    rw [doubleQuotes, List.nil_append, readDoubled]
    rintro rest rfl
    exact apart rfl
  | cons c rest ih =>
    rw [doubleQuotes]
    split
    next quote => simp [readDoubled, ih, quote]
    next plain =>
      rw [List.cons_append, readDoubledPlain plain, ih]
      rfl

end Escapes

theorem literalRead (s : String) : ReadsBack readLiteral (literal s) s :=
  ⟨escapeLiteral s.toList ++ ['"'], by simp [literal], readLiteralEscaped s.toList []⟩

theorem doubledRead (s : String) : ReadsBack readDoubled (doubled s) s :=
  ⟨doubleQuotes s.toList ++ ['"'], by simp [doubled], readDoubledQuotes s.toList nofun⟩

theorem readsBackInjective {read : List Char → Option (List Char × List Char)} {write : String → String}
    (back : ∀ s, ReadsBack read (write s) s) : Function.Injective write := by
  intro s t same
  obtain ⟨inside, shape, reads⟩ := back s
  obtain ⟨inside', shape', reads'⟩ := back t
  obtain rfl : inside = inside' := List.tail_eq_of_cons_eq (shape.symm.trans (same ▸ shape'))
  have texts := Option.some.inj (reads.symm.trans reads')
  exact String.toList_injective (congrArg Prod.fst texts)

section References

theorem referenceOrPlain (c : Char) : (∃ r ∈ references, reference? c = some r.toList) ∨
    reference? c = none ∧ c ∉ ['&', '<', '>', '"', '\''] := by
  unfold reference?
  split_ifs with amp less more quote single
  · exact .inl ⟨"&amp;", by decide, rfl⟩
  · exact .inl ⟨"&lt;", by decide, rfl⟩
  · exact .inl ⟨"&gt;", by decide, rfl⟩
  · exact .inl ⟨"&#34;", by decide, rfl⟩
  · exact .inl ⟨"&#39;", by decide, rfl⟩
  · exact .inr ⟨rfl, by simp [amp, less, more, quote, single]⟩

theorem referenceShape : ∀ r ∈ references, r.toList = '&' :: r.toList.tail ∧
    ∀ c ∈ r.toList.tail, c ∉ ['&', '<', '>', '"', '\''] := by
  have all : references.all (fun r => r.toList == '&' :: r.toList.tail &&
      r.toList.tail.all (· ∉ ['&', '<', '>', '"', '\''])) = true := by decide
  intro r used
  have shape := List.all_eq_true.mp all r used
  rw [Bool.and_eq_true, beq_iff_eq, List.all_eq_true] at shape
  exact ⟨shape.1, fun c inside => by simpa using shape.2 c inside⟩

theorem readPlain {c : Char} (amp : c ≠ '&') (rest : List Char) :
    readReferences (c :: rest) = c :: readReferences rest := by
  rw [readReferences]
  all_goals exact fun _ same _ => amp same

theorem readReference (c : Char) (rest : List Char) :
    readReferences ((reference? c).getD [c] ++ rest) = c :: readReferences rest := by
  unfold reference?
  split_ifs with amp less more quote single
  · subst amp
    rfl
  · subst less
    rfl
  · subst more
    rfl
  · subst quote
    rfl
  · subst single
    rfl
  · exact readPlain amp rest

theorem escapeCons (c : Char) (rest : List Char) :
    escapeAttribute (c :: rest) = (reference? c).getD [c] ++ escapeAttribute rest := List.flatMap_cons

theorem readEscaped (s : List Char) : readReferences (escapeAttribute s) = s := by
  induction s with
  | nil => rfl
  | cons c rest ih => rw [escapeCons, readReference, ih]

theorem escapeFree (s : List Char) : ∀ c ∈ escapeAttribute s, c ∉ ['<', '>', '"', '\''] := by
  intro c member
  obtain ⟨d, _, inside⟩ := List.mem_flatMap.mp member
  rcases referenceOrPlain d with ⟨r, used, reference⟩ | ⟨none, plain⟩
  · obtain ⟨shape, inner⟩ := referenceShape r used
    rw [reference, Option.getD_some, shape] at inside
    rcases List.mem_cons.mp inside with rfl | later
    · decide
    · exact fun there => inner c later (List.mem_cons_of_mem _ there)
  · rw [none, Option.getD_none, List.mem_singleton] at inside
    exact fun there => plain (inside ▸ List.mem_cons_of_mem _ there)

theorem escapeAmpersand {s tail : List Char} (ends : '&' :: tail <:+ escapeAttribute s) :
    ∃ r ∈ references, r.toList <+: '&' :: tail := by
  induction s with
  | nil => exact absurd (List.suffix_nil.mp ends) (List.cons_ne_nil _ _)
  | cons c rest ih =>
    obtain ⟨front, same⟩ := ends
    rw [escapeCons] at same
    rcases List.append_eq_append_iff.mp same with ⟨piece, written, cut⟩ | ⟨between, _, cut⟩
    · cases piece with
      | nil => exact ih (cut ▸ List.suffix_rfl)
      | cons d more =>
        obtain ⟨rfl, _⟩ := List.cons.inj cut
        rcases referenceOrPlain c with ⟨r, used, reference⟩ | ⟨none, plain⟩
        · rw [reference, Option.getD_some] at written
          -- a second ampersand would stand inside the reference
          cases front with
          | nil => exact ⟨r, used, written ▸ cut ▸ List.prefix_append _ _⟩
          | cons e others =>
            refine absurd List.mem_cons_self ((referenceShape r used).2 '&' ?_)
            simp [written]
        · rw [none, Option.getD_none] at written
          have amp : '&' ∈ [c] := written ▸ by simp
          exact absurd (List.mem_singleton.mp amp ▸ List.mem_cons_self) plain
    · exact ih ⟨between, cut.symm⟩

end References

/- A literal, an annotation string and an attribute value give back the text they were made from, also
where it holds quotes, backslashes or what looks like a reference; a hole of a template writes the
same. -/
theorem literalsReadBack :
    (∀ s, Template.Style.literal.write (.text s) = .ok (literal s) ∧
      literal s = String.ofList ('"' ::
        replacing '"' ['\\', '"'] (replacing '\\' ['\\', '\\'] s.toList) ++ ['"']) ∧
      ReadsBack readLiteral (literal s) s) ∧
    (∀ s, Template.Style.doubled.write (.text s) = .ok (doubled s) ∧
      doubled s = String.ofList ('"' :: replacing '"' ['"', '"'] s.toList ++ ['"']) ∧
      ReadsBack readDoubled (doubled s) s) ∧
    (∀ s, Template.Style.escaped.write (.text s) = .ok (escaped s) ∧
      (∀ c ∈ (escaped s).toList, c ∉ ['<', '>', '"', '\'']) ∧
      (∀ tail, '&' :: tail <:+ (escaped s).toList → ∃ r ∈ references, r.toList <+: '&' :: tail) ∧
      readReferences (escaped s).toList = s.toList) ∧
    Function.Injective literal ∧ Function.Injective doubled ∧ Function.Injective escaped := by
  have value (s : String) : readReferences (escaped s).toList = s.toList := by
    rw [escaped, String.toList_ofList, readEscaped]
  refine ⟨fun s => ⟨rfl, ?_, literalRead s⟩, fun s => ⟨rfl, ?_, doubledRead s⟩,
    fun s => ⟨rfl, ?_, fun tail ends => ?_, value s⟩, readsBackInjective literalRead,
    readsBackInjective doubledRead, fun s t same => ?_⟩
  · rw [literal, escapeReplaced]
  · rw [doubled, doubleReplaced]
  · rw [escaped, String.toList_ofList]
    exact escapeFree s.toList
  · rw [escaped, String.toList_ofList] at ends
    exact escapeAmpersand ends
  · exact String.toList_injective (by rw [← value s, ← value t, same])

end Text

end EntityForge
