import FluentRegex.Proofs.Syntax.Part

/-!
# Characters that count as the same

Under a setting, case does not count, and a character stands for its case variants as well. What
texts and sets of characters mean is said with `Settings.Same` for that, whatever the setting is;
`mem_folded` ties it to the sets that a pattern is made of.
-/

namespace FluentRegex

namespace Settings

/-- The characters are the same, or case does not count and they are case variants of each
other. -/
def Same (s : Settings) (c d : Char) : Prop :=
  c = d ∨ (s.caseInsensitive = true ∧ ∃ g ∈ CaseFolding.variants, c ∈ g ∧ d ∈ g)

/-- One of the listed characters counts as the same as the given one. -/
def Lists (s : Settings) (chars : String) (c : Char) : Prop := ∃ d ∈ chars.toList, s.Same c d

variable {s : Settings} {c d : Char}

theorem same_refl (c : Char) : s.Same c c := .inl rfl

/-- Where case counts, only a character itself counts as the same. -/
theorem same_iff (hcase : s.caseInsensitive = false) : s.Same c d ↔ c = d := by
  rw [Same, hcase]
  simp

theorem lists_iff (hcase : s.caseInsensitive = false) {chars : String} :
    s.Lists chars c ↔ c ∈ chars.toList := by
  rw [Lists]
  simp [same_iff hcase]

end Settings

variable {s : Settings} {c : Char}

/-- A set stands for all characters that count as the same as one of its members. -/
theorem mem_folded {S : CharSet} : c ∈ Syntax.folded s.modes S ↔ ∃ d ∈ S, s.Same c d := by
  unfold Syntax.folded
  show c ∈ (if s.caseInsensitive = true then S.foldCase else S) ↔ _
  by_cases hcase : s.caseInsensitive = true
  · rw [if_pos hcase, CharSet.foldCase, CharSet.mem_closeUnder]
    constructor
    · intro h
      rcases h with h | ⟨g, hg, hc, d, hd, hS⟩
      · exact ⟨c, h, .inl rfl⟩
      · exact ⟨d, hS, .inr ⟨hcase, g, hg, hc, hd⟩⟩
    · intro h
      obtain ⟨d, hS, rfl | ⟨-, g, hg, hc, hd⟩⟩ := h
      · exact .inl hS
      · exact .inr ⟨g, hg, hc, d, hd, hS⟩
  · rw [if_neg hcase]
    simp [Settings.same_iff (Bool.eq_false_iff.2 hcase)]

theorem mem_folded_singleton {d : Char} :
    c ∈ Syntax.folded s.modes (CharSet.singleton d) ↔ s.Same c d := by
  simp [mem_folded]

theorem mem_folded_listed {chars : String} :
    c ∈ Syntax.folded s.modes (Part.listed chars.toList) ↔ s.Lists chars c := by
  rw [mem_folded, Settings.Lists]
  simp only [Part.mem_listed]

/-- A class of all but some characters stands for those of which none is listed. -/
theorem exists_notListed {chars : String} (h : chars ≠ "") :
    ∃ S, (Part.allBut s.modes chars.toList).expr = .set S ∧ ∀ c, c ∈ S ↔ ¬ s.Lists chars c := by
  have hlist : chars.toList.isEmpty = false := by simpa using h
  refine ⟨(Syntax.folded s.modes (Part.listed chars.toList)).compl, ?_, fun c => ?_⟩
  · rw [Part.allBut, hlist, if_neg Bool.false_ne_true, Part.ofChars]
    rfl
  · rw [CharSet.mem_compl, mem_folded_listed]

end FluentRegex
