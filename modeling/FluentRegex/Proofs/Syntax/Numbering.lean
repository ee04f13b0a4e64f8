import FluentRegex.Proofs.Expr.Captures
import FluentRegex.Proofs.Syntax.Steps
import Mathlib.Data.List.Nodup

/-!
# How the groups of a pattern are numbered

The groups of a pattern that capture are numbered from 1 on, in the order in which they open, and no
name is given twice. `Progress.Numbered` says so of what was read at any time: of the finished
branches, the items, and the groups that are still open. Each move keeps it, since a group takes its
number and its name where it is opened.

> `numbered_of_parse`: it holds of the tree of every pattern.
> `isName_of_parse`: and every name in that tree can be the name of a group.
> `captures_expr`: the expression of a tree has no other groups than the tree.
-/

namespace FluentRegex.Syntax

/-! ## The groups of a tree -/

/-- The number of a group that captures, and its name if it has one. -/
def GroupKind.captures : GroupKind → List (Nat × Option String)
  | .capture index => [(index, none)]
  | .named index name => [(index, some name)]
  | .plain _ => []

mutual

/-- The groups of a tree that capture, in the order in which they open. -/
def Tree.captures : Tree → List (Nat × Option String)
  | .repetition _ _ _ _ body => body.captures
  | .group _ kind body => kind.captures ++ body.captures
  | .alternation _ branches => Tree.allCaptures branches
  | .sequence _ items => Tree.allCaptures items
  | _ => []

/-- The groups of trees that are read one after the other. -/
def Tree.allCaptures : List Tree → List (Nat × Option String)
  | [] => []
  | t :: ts => t.captures ++ Tree.allCaptures ts

end

theorem Tree.allCaptures_eq (ts : List Tree) : allCaptures ts = ts.flatMap captures := by
  induction ts with
  | nil => rfl
  | cons t ts ih => rw [allCaptures, ih, List.flatMap_cons]

theorem Tree.captures_of_isLeaf {t : Tree} (h : t.isLeaf = true) : t.captures = [] := by
  cases t with
  | flags span items => rfl
  | atom span a => rfl
  | bracket span negate inner => rfl
  | _ => exact absurd h Bool.false_ne_true

/-! ## The groups of what was read -/

/-- The groups of what was read at a level. -/
def Level.captures (l : Level) : List (Nat × Option String) :=
  l.branches.reverse.flatMap Tree.captures ++ l.items.reverse.flatMap Tree.captures

namespace Level

theorem captures_branch (l : Level) (stop : Nat) :
    (l.branch stop).captures = l.items.reverse.flatMap Tree.captures := by
  unfold branch
  split
  · next h =>
    rw [h]
    rfl
  · next t h =>
    rw [h]
    exact (List.flatMap_singleton _ _).symm
  · rw [Tree.captures, Tree.allCaptures_eq]

theorem captures_tree (l : Level) (stop : Nat) : (l.tree stop).captures = l.captures := by
  unfold tree captures
  split
  · next h => rw [h, captures_branch, List.reverse_nil, List.flatMap_nil, List.nil_append]
  · rw [Tree.captures, Tree.allCaptures_eq, List.reverse_cons, List.flatMap_append,
      List.flatMap_singleton, captures_branch]

theorem captures_push (l : Level) (t : Tree) : (l.push t).captures = l.captures ++ t.captures := by
  unfold push captures
  rw [List.reverse_cons, List.flatMap_append, List.flatMap_singleton, List.append_assoc]

theorem captures_bar (l : Level) (stop : Nat) : (l.bar stop).captures = l.captures := by
  unfold bar captures
  rw [List.reverse_cons, List.flatMap_append, List.flatMap_singleton, captures_branch,
    List.reverse_nil, List.flatMap_nil, List.append_nil]

end Level

namespace Progress

/-- The groups of all that was read, those that are still open among them. -/
def captures (p : Progress) : List (Nat × Option String) :=
  p.opened.reverse.flatMap (fun g => g.before.captures ++ g.kind.captures) ++ p.level.captures

variable {p q : Progress}

/-- A move adds the groups that it opens behind all others, and leaves the others in their order. -/
theorem Moves.captures (h : p.Moves q) :
    ∃ kind, p.groups.Opens kind q.groups ∧ q.captures = p.captures ++ kind.captures := by
  -- a move that opens no group is as good as one that opens a group without a number
  have hsame : ∀ r : Progress, r.groups = p.groups → r.captures = p.captures →
      ∃ kind, p.groups.Opens kind r.groups ∧ r.captures = p.captures ++ kind.captures := by
    intro r hgroups hcaptures
    refine ⟨.plain [], ?_, ?_⟩
    · rw [hgroups]
      exact .plain []
    · rw [hcaptures]
      exact (List.append_nil _).symm
  cases h with
  | item t c leaf =>
    refine hsame _ rfl ?_
    unfold Progress.push Progress.captures
    rw [Level.captures_push, Tree.captures_of_isLeaf leaf, List.append_nil]
  | opened kind groups c g start kept opens =>
    refine ⟨kind, opens, ?_⟩
    unfold Progress.captures
    rw [List.reverse_cons, List.flatMap_append, List.flatMap_singleton, kept.1, kept.2,
      ← List.append_assoc]
    exact List.append_nil _
  | closed g opened c span stop waiting =>
    refine hsame _ rfl ?_
    unfold Progress.captures
    rw [waiting, List.reverse_cons, List.flatMap_append, List.flatMap_singleton,
      Level.captures_push, Tree.captures, Level.captures_tree]
    simp only [List.append_assoc]
  | bar c stop =>
    refine hsame _ rfl ?_
    unfold Progress.captures
    rw [Level.captures_bar]
  | repeated t ts quantifier c span latest =>
    refine hsame _ rfl ?_
    unfold Progress.captures Level.captures
    rw [latest, List.reverse_cons, List.reverse_cons, List.flatMap_append, List.flatMap_append,
      List.flatMap_singleton, List.flatMap_singleton, Tree.captures]

/-- The groups that were opened so far are numbered in their order, and no name is given twice. -/
structure Numbered (p : Progress) : Prop where
  numbers : p.captures.map Prod.fst = List.range' 1 p.groups.count
  names : p.captures.filterMap Prod.snd = (p.groups.names.map Prod.fst).reverse
  distinct : (p.groups.names.map Prod.fst).Nodup

theorem numbered_start (pattern : List Char) : (start pattern).Numbered :=
  ⟨rfl, rfl, List.nodup_nil⟩

theorem Numbered.moves (h : p.Moves q) (hp : p.Numbered) : q.Numbered := by
  obtain ⟨kind, hopens, hcaptures⟩ := h.captures
  obtain ⟨hnumbers, hnames, hdistinct⟩ := hp
  generalize hg : q.groups = g at hopens
  -- the next number comes behind all others
  have hnext : ∀ name : Option String, (p.captures ++ [(p.groups.count + 1, name)]).map Prod.fst =
      List.range' 1 (p.groups.count + 1) := by
    intro name
    rw [List.map_append, hnumbers, List.range'_1_concat, Nat.add_comm 1]
    rfl
  cases hopens with
  | plain items =>
    have hnone : p.captures ++ (GroupKind.plain items).captures = p.captures := List.append_nil _
    refine ⟨?_, ?_, ?_⟩
    · rw [hcaptures, hnone, hg, hnumbers]
    · rw [hcaptures, hnone, hg, hnames]
    · rw [hg]
      exact hdistinct
  | capture =>
    refine ⟨?_, ?_, ?_⟩
    · rw [hcaptures, hg]
      exact hnext none
    · rw [hcaptures, hg, List.filterMap_append, hnames]
      exact List.append_nil _
    · rw [hg]
      exact hdistinct
  | named name span free =>
    refine ⟨?_, ?_, ?_⟩
    · rw [hcaptures, hg]
      exact hnext (some name)
    · rw [hcaptures, hg, List.filterMap_append, hnames, List.map_cons, List.reverse_cons]
      rfl
    · rw [hg, List.map_cons, List.nodup_cons]
      refine ⟨fun hmem => ?_, hdistinct⟩
      obtain ⟨entry, hentry, hname⟩ := List.mem_map.1 hmem
      rw [List.lookup_eq_none_iff] at free
      have hne := free entry hentry
      rw [hname] at hne
      simp at hne

/-- The groups of everything that is read are numbered in their order. -/
theorem Numbered.run {fuel : Nat} (hp : p.Numbered) (h : run fuel p = .ok q) : q.Numbered :=
  run_induction (fun _ _ hp => ⟨hp.numbers, hp.names, hp.distinct⟩)
    (fun _ _ h hp => hp.moves h) hp h

/-- Every name that was given to a group can be one. -/
def Named (p : Progress) : Prop := ∀ n, some n ∈ p.captures.map Prod.snd → isName n.toList = true

theorem Named.moves (h : p.Moves q) (hp : p.Named) : q.Named := by
  obtain ⟨kind, hopens, hcaptures⟩ := h.captures
  generalize q.groups = g at hopens
  intro n hn
  rw [hcaptures, List.map_append, List.mem_append] at hn
  rcases hn with hn | hn
  · exact hp n hn
  · cases hopens with
    | plain items => exact absurd hn List.not_mem_nil
    | capture => exact absurd (List.mem_singleton.1 hn) (by simp)
    | named name span free valid =>
      obtain rfl := Option.some.inj (List.mem_singleton.1 hn)
      exact valid

theorem Named.run {fuel : Nat} (hp : p.Named) (h : run fuel p = .ok q) : q.Named :=
  run_induction (fun _ _ hp => hp) (fun _ _ h hp => hp.moves h) hp h

end Progress

/-! ## Whole patterns -/

/-- No group is open at the end of a pattern, so its tree has all that were opened. -/
theorem captures_of_parse {pattern : List Char} {t : Tree} (h : parse pattern = .ok t) :
    ∃ p, Progress.run (pattern.length + 1) (Progress.start pattern) = .ok p ∧
      t.captures = p.captures := by
  rw [parse] at h
  split at h
  · exact absurd h (by simp)
  · next p hrun =>
    refine ⟨p, hrun, ?_⟩
    rw [Progress.finish] at h
    split at h
    · exact absurd h (by simp)
    · next hopened =>
      dsimp only at h
      split at h
      · exact absurd h (by simp)
      · rw [← Except.ok.inj h, Level.captures_tree, Progress.captures, hopened]
        rfl

/-- The groups of a pattern are numbered from 1 on in the order in which they open, and no name is
given twice. -/
theorem numbered_of_parse {pattern : List Char} {t : Tree} (h : parse pattern = .ok t) :
    (∃ count, t.captures.map Prod.fst = List.range' 1 count) ∧
      (t.captures.filterMap Prod.snd).Nodup := by
  obtain ⟨p, hrun, hcaptures⟩ := captures_of_parse h
  have hp := (Progress.numbered_start pattern).run hrun
  rw [hcaptures, hp.names]
  exact ⟨⟨_, hp.numbers⟩, List.nodup_reverse.2 hp.distinct⟩

/-- No pattern has a group under a name that cannot be one. -/
theorem isName_of_parse {pattern : List Char} {t : Tree} (h : parse pattern = .ok t) {n : String}
    (hn : some n ∈ t.captures.map Prod.snd) : isName n.toList = true := by
  obtain ⟨p, hrun, hcaptures⟩ := captures_of_parse h
  have hstart : (Progress.start pattern).Named := fun n hn => absurd hn List.not_mem_nil
  exact hstart.run hrun n (hcaptures ▸ hn)

/-! ## The expression of a tree -/

theorem captures_atom {m : Modes} {span : Span} {a : Atom} {e : Expr}
    (h : a.expr m span = .ok e) : e.captures = [] := by
  unfold Atom.expr at h
  split at h
  · split at h
    · exact absurd h (by simp)
    · rw [← Except.ok.inj h]
      rfl
  · split at h
    · rw [← Except.ok.inj h]
      rfl
    · exact absurd h (by simp)
  · rw [← Except.ok.inj h]
    rfl
  · split at h
    · rw [← Except.ok.inj h]
      rfl
    · exact absurd h (by simp)
  · split at h
    · rw [← Except.ok.inj h]
      rfl
    · exact absurd h (by simp)

mutual

/-- The expression of a tree has no other groups than the tree. -/
theorem captures_expr (t : Tree) {m after : Modes} {e : Expr} (h : t.expr m = .ok (e, after)) :
    e.captures ⊆ t.captures := by
  cases t with
  | empty span =>
    obtain ⟨rfl, -⟩ := by simpa [Tree.expr] using h
    exact List.nil_subset _
  | flags span items =>
    obtain ⟨rfl, -⟩ := by simpa [Tree.expr] using h
    exact List.nil_subset _
  | atom span a =>
    rw [Tree.expr] at h
    split at h
    · next e' ha =>
      obtain ⟨rfl, -⟩ := by simpa using h
      rw [captures_atom ha]
      exact List.nil_subset _
    · exact absurd h (by simp)
  | bracket span negate inner =>
    rw [Tree.expr] at h
    split at h
    · exact absurd h (by simp)
    · split at h
      · obtain ⟨rfl, -⟩ := by simpa using h
        exact List.nil_subset _
      · exact absurd h (by simp)
  | repetition span min max lazily body =>
    rw [Tree.expr] at h
    split at h
    · exact absurd h (by simp)
    · next e' _ hbody =>
      obtain ⟨rfl, -⟩ := by simpa using h
      exact List.Subset.trans (Expr.captures_repeated _ _ _ _) (captures_expr body hbody)
  | group span kind body =>
    cases kind with
    | plain items =>
      rw [Tree.expr] at h
      split at h
      · next e' _ hbody =>
        obtain ⟨rfl, -⟩ := by simpa using h
        exact captures_expr body hbody
      · exact absurd h (by simp)
    | capture index =>
      rw [Tree.expr] at h
      split at h
      · next e' _ hbody =>
        obtain ⟨rfl, -⟩ := by simpa using h
        exact List.cons_subset_cons _ (captures_expr body hbody)
      · exact absurd h (by simp)
    | named index name =>
      rw [Tree.expr] at h
      split at h
      · next e' _ hbody =>
        obtain ⟨rfl, -⟩ := by simpa using h
        exact List.cons_subset_cons _ (captures_expr body hbody)
      · exact absurd h (by simp)
  | alternation span branches =>
    rw [Tree.expr] at h
    split at h
    · next es _ hbranches =>
      obtain ⟨rfl, -⟩ := by simpa using h
      exact List.Subset.trans (Expr.captures_choice es) (captures_exprs branches hbranches)
    · exact absurd h (by simp)
  | sequence span items =>
    rw [Tree.expr] at h
    split at h
    · next es _ hitems =>
      obtain ⟨rfl, -⟩ := by simpa using h
      rw [Expr.captures_sequence]
      exact captures_exprs items hitems
    · exact absurd h (by simp)

theorem captures_exprs (ts : List Tree) {m after : Modes} {es : List Expr}
    (h : Tree.exprs m ts = .ok (es, after)) :
    es.flatMap Expr.captures ⊆ Tree.allCaptures ts := by
  cases ts with
  | nil =>
    obtain ⟨rfl, -⟩ := by simpa [Tree.exprs] using h
    exact List.nil_subset _
  | cons t ts =>
    rw [Tree.exprs] at h
    split at h
    · exact absurd h (by simp)
    · next e between ht =>
      split at h
      · exact absurd h (by simp)
      · next es' _ hts =>
        obtain ⟨rfl, -⟩ := by simpa using h
        rw [List.flatMap_cons, Tree.allCaptures]
        exact List.append_subset.2
          ⟨List.subset_append_of_subset_left _ (captures_expr t ht),
            List.subset_append_of_subset_right _ (captures_exprs ts hts)⟩

end

end FluentRegex.Syntax
