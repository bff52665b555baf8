import ViewAdapters.Proofs.Adapter.ComposedLines
import ViewAdapters.Proofs.Adapter.Findings
import ViewAdapters.Proofs.Adapter.KotlinImports

/-!
# Structure of adapter texts

The lines and the brackets of a standard text, for an input that brings none of its own along.

* `Backend.lines_of_generate`: without line feeds in the input, the lines of the text are those
  that the adapter is made from.
* `Backend.isNested_of_generate`: without brackets in the input, those of the text are nested.
-/

namespace ViewAdapters

namespace Backend

variable {b : Backend} {v : ViewModel} {a : Adapter}

/-- The lines of a text that is made from an input without line feeds. -/
theorem lines_of_generate (hStandard : b.templates = [])
    (hFeeds : ∀ s ∈ b.texts ++ v.texts, '\n' ∉ s.toList) (h : b.generate v = .ok a) :
    ∃ assembly, Assembly.make b.target b.package b.time v = .ok assembly ∧
      Text.lines a.text = assembly.content.lines ++ [""] := by
  obtain ⟨assembly, hMake, hText, -⟩ := exists_assembly_of_generate hStandard h
  have hLacks : ∀ s ∈ b.texts ++ v.texts, Lacks ['\n'] s := by
    intro s hs c hc hIn
    exact hFeeds s hs (List.mem_singleton.1 hIn ▸ hc)
  have hShows := shows_of_make inherited_noFeed hLacks hMake
  have hLines := (Content.composed_lines inherited_noFeed hShows).noFeed List.not_mem_nil
  exact ⟨assembly, hMake, hText ▸ Text.lines_textOfLines_of_not_mem hLines⟩

/-- The brackets of a text are nested, whatever members it is made from, if no text of the input
has a bracket. -/
theorem isNested_of_generate (hStandard : b.templates = [])
    (hTexts : ∀ s ∈ b.texts ++ v.texts, ∀ c ∈ s.toList, c ∉ Text.bracketChars)
    (h : b.generate v = .ok a) : Text.IsNested a.text.toList := by
  obtain ⟨assembly, hMake, hText, -⟩ := exists_assembly_of_generate hStandard h
  have hShows := shows_of_make inherited_wellBracketed hTexts hMake
  have hLines := Content.composed_lines inherited_wellBracketed hShows
  rw [Text.isNested_iff, hText, hLines.awaitedAfter_eq]
  rfl

theorem exists_generate_journey (platform : Platform) :
    ∃ a, (standard platform).generate journey = .ok a := by
  refine (exists_generate_of_isTyped rfl ⟨by decide, by decide⟩).2 ?_
  have hSizes : ∀ p ∈ journey.properties, ∀ b ∈ p.batching, ∀ n ∈ b.toldSize,
      n.natAbs < tenTo 2 := by decide
  have hBound : tenTo 2 ≤ Text.numeralBound := tenTo_le (by decide)
  intro p hp b hb _ n hn
  exact Nat.lt_of_lt_of_le (hSizes p (ViewModel.mem_propertiesFor.1 hp).1 b hb n hn) hBound

theorem isNested_journey :
    ∃ a, (standard .ios).generate journey = .ok a ∧ Text.IsNested a.text.toList := by
  obtain ⟨a, ha⟩ := exists_generate_journey .ios
  have hLacks : ∀ s ∈ (standard .ios).texts ++ journey.texts, Lacks Text.bracketChars s := by
    decide
  exact ⟨a, ha, isNested_of_generate rfl hLacks ha⟩

end Backend
end ViewAdapters
