import FluentRegex.Proofs.Syntax.Reading

/-!
# Reading groups

A parenthesis that sets no flags opens a group in one of three ways (`Groups.Reads`), which can be
told apart by the first characters behind it. A group that captures is read as one item with the
next free number, and under its name if one is given (`Adds.group`). What stands between its
parentheses is read at a level of its own, so all that has to be known of it is what it adds there.
-/

namespace FluentRegex

/-! ## Names -/

/-- Among the ASCII characters the letters and numerals are the usual ones. -/
theorem isAlphanumeric_eq_false {c : Char} (hascii : c.toNat < 0x80)
    (h : c.isAlphanum = false) : isAlphabetic c = false ∧ isAlphanumeric c = false := by
  have hcodes : ¬ (0x41 ≤ c.toNat ∧ c.toNat ≤ 0x5A) ∧ ¬ (0x61 ≤ c.toNat ∧ c.toNat ≤ 0x7A) ∧
      ¬ (0x30 ≤ c.toNat ∧ c.toNat ≤ 0x39) := by
    have hclasses : ((c.isUpper || c.isLower) || c.isDigit) = false := h
    rw [Bool.or_eq_false_iff, Bool.or_eq_false_iff] at hclasses
    obtain ⟨⟨hupper, hlower⟩, hdigit⟩ := hclasses
    refine ⟨fun hrange => ?_, fun hrange => ?_, fun hrange => ?_⟩
    · have htrue : c.isUpper = true := decide_eq_true hrange
      rw [hupper] at htrue
      exact Bool.false_ne_true htrue
    · have htrue : c.isLower = true :=
        Bool.and_eq_true_iff.2 ⟨decide_eq_true hrange.1, decide_eq_true hrange.2⟩
      rw [hlower] at htrue
      exact Bool.false_ne_true htrue
    · rw [Char.isDigit_iff_toNat.2 hrange] at hdigit
      exact Bool.false_ne_true hdigit.symm
  have halpha : isAlphabetic c = false := by
    rw [← Bool.not_eq_true, isAlphabetic, ← CharSet.mem_iff, CharSet.alphabetic,
      CharSet.mem_pinned_ascii hascii]
    intro h
    obtain ⟨r, hr, h1, h2⟩ := h
    simp only [List.mem_cons, List.not_mem_nil, or_false] at hr
    rcases hr with rfl | rfl
    · exact hcodes.1 ⟨h1, h2⟩
    · exact hcodes.2.1 ⟨h1, h2⟩
  refine ⟨halpha, ?_⟩
  rw [isAlphanumeric, halpha, Bool.false_or, ← Bool.not_eq_true, ← CharSet.mem_iff,
    CharSet.numerals, CharSet.mem_pinned_ascii hascii]
  intro h
  obtain ⟨r, hr, h1, h2⟩ := h
  rw [List.mem_singleton] at hr
  subst hr
  exact hcodes.2.2 ⟨h1, h2⟩

namespace Syntax

/-- Of the ASCII signs only four may stand in a name. -/
theorem isNameChar_eq_false {first : Bool} {c : Char} (hascii : c.toNat < 0x80)
    (h : c.isAlphanum = false) (hsigns : ¬ (c == '_' || c == '.' || c == '[' || c == ']') = true) :
    isNameChar first c = false := by
  obtain ⟨halpha, halnum⟩ := isAlphanumeric_eq_false hascii h
  simp only [Bool.or_eq_true, not_or, Bool.not_eq_true] at hsigns
  rw [isNameChar, halpha, halnum, hsigns.1.1.1, hsigns.1.1.2, hsigns.1.2, hsigns.2]
  cases first <;> rfl

theorem isName_cons {c : Char} {cs : List Char} :
    isName (c :: cs) = true ↔ isNameChar true c = true ∧ ∀ d ∈ cs, isNameChar false d = true := by
  rw [isName, Bool.and_eq_true, List.all_eq_true]

theorem isNameChar_false_of_true {c : Char} (h : isNameChar true c = true) :
    isNameChar false c = true := by
  rw [isNameChar, if_pos rfl, Bool.or_eq_true] at h
  rw [isNameChar, if_neg Bool.false_ne_true, isAlphanumeric]
  rcases h with h | h
  · simp [h]
  · simp [h]

theorem isNameChar_of_isName {name : List Char} (h : isName name = true) {c : Char}
    (hc : c ∈ name) : isNameChar false c = true := by
  cases name with
  | nil => exact absurd hc List.not_mem_nil
  | cons d ds =>
    obtain ⟨hd, hds⟩ := isName_cons.1 h
    rcases List.mem_cons.1 hc with rfl | hc
    · exact isNameChar_false_of_true hd
    · exact hds c hc

/-- A name is read up to the angle bracket. -/
theorem groupNameChars_of_isName {name : List Char} (h : isName name = true) (pos : Nat)
    (rest : List Char) : groupNameChars true pos (name ++ '>' :: rest) = .ok name := by
  have hends : ∀ first, isNameChar first '>' = false :=
    fun first => isNameChar_eq_false (by decide) rfl (by decide)
  have hne : ∀ {first : Bool} {c : Char}, isNameChar first c = true → c ≠ '>' := by
    intro first c hc heq
    subst heq
    rw [hends] at hc
    exact Bool.false_ne_true hc
  have hall : ∀ (cs : List Char) (pos : Nat), (∀ d ∈ cs, isNameChar false d = true) →
      groupNameChars false pos (cs ++ '>' :: rest) = .ok cs := by
    intro cs
    induction cs with
    | nil => exact fun pos _ => rfl
    | cons d ds ih =>
      intro pos hcs
      have hd := hcs d List.mem_cons_self
      rw [List.cons_append, groupNameChars, if_neg (hne hd), if_pos hd,
        ih (pos + 1) fun e he => hcs e (List.mem_cons_of_mem _ he)]
  cases name with
  | nil => exact absurd h (by simp [isName])
  | cons c cs =>
    obtain ⟨hc, hcs⟩ := isName_cons.1 h
    rw [List.cons_append, groupNameChars, if_neg (hne hc), if_pos hc, hall cs (pos + 1) hcs]

/-- A name that was read stands in the pattern, and an angle bracket behind it. -/
theorem prefix_of_groupNameChars {first : Bool} {pos : Nat} {cs name : List Char}
    (h : groupNameChars first pos cs = .ok name) : name ++ ['>'] <+: cs := by
  induction cs generalizing first pos name with
  | nil => exact absurd h (by simp [groupNameChars])
  | cons d ds ih =>
    rw [groupNameChars] at h
    split at h
    · next hend =>
      rw [← Except.ok.inj h, hend]
      exact List.prefix_append ['>'] ds
    · split at h
      · split at h
        · next hrest =>
          rw [← Except.ok.inj h]
          exact (List.prefix_cons_inj d).2 (ih hrest)
        · exact absurd h (by simp)
      · exact absurd h (by simp)

/-- The characters of a name that was read may stand where they stand. -/
theorem isNameChar_of_groupNameChars {first : Bool} {pos : Nat} {cs name : List Char}
    (h : groupNameChars first pos cs = .ok name) :
    (∀ c ∈ name.head?, isNameChar first c = true) ∧ ∀ c ∈ name.tail, isNameChar false c = true := by
  induction cs generalizing first pos name with
  | nil => exact absurd h (by simp [groupNameChars])
  | cons d ds ih =>
    rw [groupNameChars] at h
    split at h
    · rw [← Except.ok.inj h]
      simp
    · split at h
      · next hchar =>
        split at h
        · next rest hrest =>
          obtain ⟨hhead, htail⟩ := ih hrest
          rw [← Except.ok.inj h]
          refine ⟨fun c hc => Option.some.inj hc ▸ hchar, ?_⟩
          -- behind the first character all stand in the same place
          cases rest with
          | nil => simp
          | cons e es => exact List.forall_mem_cons.2 ⟨hhead e rfl, htail⟩
        · exact absurd h (by simp)
      · exact absurd h (by simp)

/-- Only what can be the name of a group is read as one. -/
theorem isName_of_groupNameChars {pos : Nat} {cs name : List Char} (hne : name ≠ [])
    (h : groupNameChars true pos cs = .ok name) : isName name = true := by
  obtain ⟨c, rest, rfl⟩ := List.exists_cons_of_ne_nil hne
  obtain ⟨hhead, htail⟩ := isNameChar_of_groupNameChars h
  exact isName_cons.2 ⟨hhead c rfl, htail⟩

/-! ## Groups in use -/

/-- The kind of a group that captures. -/
def GroupKind.capturing (index : Nat) : Option String → GroupKind
  | none => .capture index
  | some name => .named index name

/-- The text with which a group that captures opens. -/
def openingText : Option String → List Char
  | none => ['(']
  | some name => '(' :: '?' :: 'P' :: '<' :: (name.toList ++ ['>'])

/-- The groups after one more, which is given a name or not. -/
def Groups.enter (g : Groups) (name : Option String) (span : Span) : Groups :=
  ⟨g.count + 1, match name with
    | none => g.names
    | some name => (name, span) :: g.names⟩

theorem Groups.count_enter (g : Groups) (name : Option String) (span : Span) :
    (g.enter name span).count = g.count + 1 := rfl

theorem Groups.mem_enter {g : Groups} {name : Option String} {span : Span} {n : String} :
    n ∈ (g.enter name span).names.map Prod.fst ↔ n ∈ g.names.map Prod.fst ∨ some n = name := by
  cases name with
  | none => simp [enter]
  | some name => simp [enter, or_comm]

section

open Cursor

variable {g g' : Groups} {c c' : Cursor} {kind : GroupKind}

/-- A name is entered if it can be read and is not in use. -/
theorem groupName_eq_ok_iff : groupName g c = .ok ((kind, g'), c') ↔
    ∃ name, groupNameChars true c.pos c.rest = .ok name ∧ name ≠ [] ∧
      g.names.lookup (String.ofList name) = none ∧
      kind = .named (g.count + 1) (String.ofList name) ∧
      g' = g.enter (some (String.ofList name)) ⟨c.pos, c.pos + name.length⟩ ∧
      c' = c.advanceBy (name.length + 1) := by
  rw [groupName]
  constructor
  · intro h
    split at h
    · exact absurd h (by simp)
    · next name hname =>
      dsimp only at h
      split at h
      · exact absurd h (by simp)
      · next hne =>
        split at h
        · exact absurd h (by simp)
        · next hfree =>
          obtain ⟨hboth, rfl⟩ := Prod.mk.inj (Except.ok.inj h)
          obtain ⟨rfl, rfl⟩ := Prod.mk.inj hboth
          exact ⟨name, hname, fun hnil => hne (List.isEmpty_iff.2 hnil), hfree, rfl, rfl, rfl⟩
  · intro h
    obtain ⟨name, hname, hne, hfree, rfl, rfl, rfl⟩ := h
    rw [hname]
    dsimp only
    rw [List.isEmpty_eq_false_iff.2 hne, if_neg Bool.false_ne_true, hfree]
    rfl

/-- A free name is read as the name of the next group. -/
theorem groupName_of_isName {n : String} (hvalid : isName n.toList = true)
    (hfree : n ∉ g.names.map Prod.fst) {rest : List Char} (hc : c.At (n.toList ++ '>' :: rest)) :
    ∃ span c', c'.At rest ∧
      groupName g c = .ok ((.named (g.count + 1) n, g.enter (some n) span), c') := by
  have hlookup : g.names.lookup n = none := by
    rw [List.lookup_eq_none_iff]
    intro e he
    rw [bne_iff_ne]
    intro heq
    subst heq
    exact hfree (List.mem_map_of_mem he)
  have hne : n.toList ≠ [] := by
    intro hnil
    rw [hnil] at hvalid
    exact absurd hvalid (by simp [isName])
  have hafter : (c.advanceBy (n.toList.length + 1)).At rest := by
    have h : c.At ((n.toList ++ ['>']) ++ rest) := by simpa using hc
    have := h.advanceBy
    rwa [List.length_append] at this
  refine ⟨⟨c.pos, c.pos + n.toList.length⟩, _, hafter,
    groupName_eq_ok_iff.2 ⟨n.toList, ?_, hne, ?_⟩⟩
  · rw [hc.rest]
    exact groupNameChars_of_isName hvalid c.pos rest
  · rw [String.ofList_toList]
    exact ⟨hlookup, rfl, rfl, rfl⟩

/-- The sign of a look-around is no name. -/
theorem peek?_ne_of_groupName {r : (GroupKind × Groups) × Cursor} {d : Char}
    (hd : d = '=' ∨ d = '!') (h : groupName g c = .ok r) : c.peek? ≠ some d := by
  intro hpeek
  rw [peek?, List.head?_eq_some_iff] at hpeek
  obtain ⟨ds, hrest⟩ := hpeek
  rw [groupName, hrest] at h
  rcases hd with rfl | rfl
  · have hchar : isNameChar true '=' = false := isNameChar_eq_false (by decide) rfl (by decide)
    rw [groupNameChars, if_neg (by decide), if_neg (by rw [hchar]; decide)] at h
    exact absurd h (by simp)
  · have hchar : isNameChar true '!' = false := isNameChar_eq_false (by decide) rfl (by decide)
    rw [groupNameChars, if_neg (by decide), if_neg (by rw [hchar]; decide)] at h
    exact absurd h (by simp)

/-! ## Openings -/

/-- A list of flags may end before it began. -/
theorem flagItems_of_peek? {d : Char} (hd : d = ':' ∨ d = ')') (h : c.peek? = some d) :
    flagItems c.pos c.rest [] = .ok [] := by
  rw [peek?, List.head?_eq_some_iff] at h
  obtain ⟨ds, hrest⟩ := h
  rw [hrest]
  simp [flagItems, hd]

theorem flagOpening_of_colon {openAt : Nat} (h : c.peek? = some ':') :
    flagOpening openAt g c = .ok ((.group (.plain []), g), c.advance) := by
  have hstop : c.advanceBy ([] : List (FlagItem × Span)).length = c := rfl
  rw [flagOpening, atEnd_of_peek? h, if_neg Bool.false_ne_true, flagItems_of_peek? (.inl rfl) h]
  dsimp only
  rw [hstop, h, if_neg (by simp)]
  rfl

/-- How a parenthesis is read that sets no flags. -/
inductive Groups.Reads (g : Groups) (c : Cursor) : GroupKind → Groups → Cursor → Prop
  | capture (h : c.next.peek? ≠ some '?') :
    Reads g c (.capture (g.count + 1)) { g with count := g.count + 1 } c.next
  | named {mark : List Char} {index : Nat} {name : String} {g' : Groups} {body c' : Cursor}
    (hmark : mark = ['?', 'P', '<'] ∨ mark = ['?', '<']) (hbody : c.next.accept? mark = some body)
    (hname : groupName g body = .ok ((.named index name, g'), c')) :
    Reads g c (.named index name) g' c'
  | plain {c' : Cursor} (h : c.next.accept? ['?', ':'] = some c') : Reads g c (.plain []) g c'

/-- Each of the three ways can be told from the others. -/
theorem groupOpening_of_reads (h : g.Reads c kind g' c') :
    groupOpening g c = .ok ((.group kind, g'), c') := by
  -- a question mark can be passed over in each of the texts that are tried
  have hpass : ∀ {text : List Char} {c' : Cursor}, c.next.accept? ('?' :: text) = some c' →
      (∀ t, c.next.accept? ('?' :: t) = c.next.advance.accept? t) ∧
        c.next.advance.accept? text = some c' := by
    intro text c' htext
    have hq : c.next.peek? = some '?' := peek?_of_accept? htext
    have hall : ∀ t, c.next.accept? ('?' :: t) = c.next.advance.accept? t :=
      fun t => accept?_cons hq
    exact ⟨hall, by rw [← hall]; exact htext⟩
  rw [groupOpening]
  cases h with
  | capture h =>
    have hrefuse : ∀ text, c.next.accept? ('?' :: text) = none := fun text => accept?_eq_none h
    simp only [List.findSome?_cons, hrefuse, List.findSome?_nil]
  | @named mark _ _ _ body _ hmark hbody hname =>
    rcases hmark with rfl | rfl
    · obtain ⟨hall, hmark⟩ := hpass hbody
      have hletter := peek?_of_accept? hmark
      have hrefuse : ∀ {d : Char} {t : List Char}, d ≠ 'P' →
          c.next.advance.accept? (d :: t) = none :=
        fun hd => accept?_eq_none (by rw [hletter]; simpa using hd.symm)
      simp only [List.findSome?_cons, List.findSome?_nil, hall, hmark, hname,
        hrefuse (show '=' ≠ 'P' by decide), hrefuse (show '!' ≠ 'P' by decide),
        hrefuse (show '<' ≠ 'P' by decide)]
    · obtain ⟨hall, hmark⟩ := hpass hbody
      have hangle := peek?_of_accept? hmark
      have hrefuse : ∀ {d : Char} {t : List Char}, d ≠ '<' →
          c.next.advance.accept? (d :: t) = none :=
        fun hd => accept?_eq_none (by rw [hangle]; simpa using hd.symm)
      have hlook : ∀ d, d = '=' ∨ d = '!' → c.next.advance.accept? ['<', d] = none := by
        intro d hd
        rw [show ['<', d] = ['<'] ++ [d] from rfl, accept?_append, hmark, Option.bind_some]
        exact accept?_eq_none (peek?_ne_of_groupName hd hname)
      simp only [List.findSome?_cons, List.findSome?_nil, hall, hmark, hname,
        hlook '=' (.inl rfl), hlook '!' (.inr rfl), hrefuse (show '=' ≠ '<' by decide),
        hrefuse (show '!' ≠ '<' by decide), hrefuse (show 'P' ≠ '<' by decide)]
  | plain h =>
    obtain ⟨hall, hmark⟩ := hpass h
    have hcolon := peek?_of_accept? hmark
    have hrefuse : ∀ {d : Char} {t : List Char}, d ≠ ':' →
        c.next.advance.accept? (d :: t) = none :=
      fun hd => accept?_eq_none (by rw [hcolon]; simpa using hd.symm)
    rw [accept?_singleton hcolon] at hmark
    simp only [List.findSome?_cons, List.findSome?_nil, hall, hrefuse (show '=' ≠ ':' by decide),
      hrefuse (show '!' ≠ ':' by decide), hrefuse (show '<' ≠ ':' by decide),
      hrefuse (show 'P' ≠ ':' by decide)]
    rw [show c.next.advance.accept? [] = some c.next.advance from rfl]
    dsimp only
    rw [flagOpening_of_colon hcolon, Option.some.inj hmark]

end

namespace Progress

variable {g' : Groups} {c' : Cursor} {kind : GroupKind}

/-- The inside of a group that has just been opened. -/
def within (p : Progress) (kind : GroupKind) (groups : Groups) (c : Cursor) : Progress where
  cursor := c
  level := Level.fresh c.pos
  opened := ⟨p.cursor.pos, kind, c.verbose, p.level⟩ :: p.opened
  groups := groups

theorem openGroup_of_reads {p : Progress} (h : p.groups.Reads p.cursor kind g' c') :
    p.openGroup = .ok (p.within kind g' c') := by
  rw [openGroup, groupOpening_of_reads h]
  cases h with
  | capture h => rfl
  | named hmark hbody hname => rfl
  | plain h => rfl

/-- An opening is read as the opening of a group that captures, under its name if it has one. -/
theorem step_opening {p : Progress} {name : Option String} {rest : List Char}
    (hp : p.cursor.At (openingText name ++ rest)) (hrest : rest.head? ≠ some '?')
    (hname : ∀ n ∈ name, isName n.toList = true ∧ n ∉ p.groups.names.map Prod.fst) :
    ∃ span c, c.At rest ∧ p.step '(' = .ok (p.within
      (.capturing (p.groups.count + 1) name) (p.groups.enter name span) c) := by
  have hnext := hp.next
  cases name with
  | none =>
    have hc : p.cursor.next.At rest := hnext ▸ hp.advance
    exact ⟨⟨0, 0⟩, p.cursor.next, hc, openGroup_of_reads (.capture (by rwa [hc.peek?]))⟩
  | some n =>
    obtain ⟨hvalid, hfree⟩ := hname n rfl
    have hat : p.cursor.next.At (['?', 'P', '<'] ++ (n.toList ++ '>' :: rest)) := by
      have h := hp
      rw [openingText, List.cons_append] at h
      rw [hnext]
      simpa using h.advance
    have hbody : p.cursor.next.accept? ['?', 'P', '<'] = some (p.cursor.next.advanceBy 3) :=
      Cursor.accept?_eq_some_iff.2 ⟨by rw [hat.rest]; exact List.prefix_append _ _, rfl⟩
    obtain ⟨span, c, hc, hread⟩ := groupName_of_isName hvalid hfree hat.advanceBy
    exact ⟨span, c, hc, openGroup_of_reads (.named (.inl rfl) hbody hread)⟩

/-- A group whose inside adds some parts is one part itself. -/
theorem Adds.group {m : Modes} {p q : Progress} {index : Nat} {name : Option String}
    {ps : List Part} {g g' : Groups} {c : Cursor} {r inside rest : List Char}
    (hp : p.cursor.At ('(' :: r)) (hc : c.At inside) (hlen : inside.length ≤ r.length)
    (hstep : p.step '(' = .ok (p.within (.capturing index name) g c))
    (h : (p.within (.capturing index name) g c).Adds m ps g' (')' :: rest) q) :
    ∃ q', p.Adds m [Part.group index name ps] g' rest q' := by
  have hopened : q.opened = ⟨p.cursor.pos, .capturing index name, c.verbose, p.level⟩ :: p.opened :=
    h.opened
  obtain ⟨ts, hts, hitems⟩ := h.items
  have hlevel : List.Forall₂ (Tree.IsItem m) q.level.items.reverse ps := by
    have htop : (p.within (.capturing index name) g c).level.items = [] := rfl
    have := List.rel_reverse hitems
    rw [hts, htop, List.append_nil]
    rwa [List.reverse_reverse] at this
  have hmeans := means_tree (h.branches.trans rfl) hlevel q.cursor.pos
  -- the parenthesis takes the frame of the opening off again
  have hclose : q.step ')' = q.closeGroup := rfl
  rw [closeGroup, hopened] at hclose
  refine ⟨_, (leads_step hp hstep ?_).trans (h.leads.trans (leads_step h.cursor hclose ?_)), ?_,
    rfl, rfl, ⟨[_], rfl, .cons ⟨⟨?_, fun room => ?_⟩, rfl⟩ .nil⟩, h.groups⟩
  · show c.rest.length ≤ r.length
    rw [hc.rest]
    exact hlen
  · show q.cursor.advance.rest.length ≤ rest.length
    exact Nat.le_of_eq (congrArg List.length h.cursor.advance.rest)
  · exact ⟨h.cursor.advance.rest, hc.plain⟩
  · cases name with
    | none =>
      rw [GroupKind.capturing, Tree.expr, hmeans.expr]
      rfl
    | some n =>
      rw [GroupKind.capturing, Tree.expr, hmeans.expr]
      rfl
  · cases room with
    | zero => simp [Tree.tooDeep?, Part.group]
    | succ room =>
      rw [Tree.tooDeep?, hmeans.depth]
      exact Nat.succ_le_succ_iff.symm

end Progress

end Syntax

end FluentRegex
