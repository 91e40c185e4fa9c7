import Notekeeper.Proofs.Query.Scanning
import Notekeeper.Proofs.Query.Shape

/-!
# Reading and building agree on nesting

The reader of a query keeps the closing marks it awaits, the builder only the tree. Nevertheless the
open groups above the current node are at every token those whose closing marks the reader awaits, in
the same order (`nesting_agrees`): an open group is never overwritten, since the current node is never
one, and operators are put in below the groups around them. A closing mark thus closes the group that
was opened by its partner, and a query is rejected only because its tree is too deep.
-/

namespace Notekeeper.Query

/-! ## What is awaited behind a token -/

/-- How a token changes the closing marks that are awaited. -/
inductive Token.Shifts : List Char → Token → List Char → Prop where
  | text (awaiting : List Char) (string : String) : Shifts awaiting (.text string) awaiting
  | aspect (awaiting : List Char) (chosen : Aspect) : Shifts awaiting (.aspect chosen) awaiting
  | operator (awaiting : List Char) (joiner : Operator) :
      Shifts awaiting (.operator joiner) awaiting
  | opening (awaiting : List Char) {mark partner : Char} (partners : closingMark? mark = some partner) :
      Shifts awaiting (.opening mark) (partner :: awaiting)
  | closing (awaiting : List Char) (mark : Char) : Shifts (mark :: awaiting) (.closing mark) awaiting

namespace Scanner

/-- A token of one step with what is awaited behind it. A text is complete before its closing mark
is taken off, any other token when the step is done. -/
def stamp (before after : Scanner) : Token → Token × List Char
  | .text string => (.text string, before.awaiting)
  | token => (token, after.awaiting)

/-- The tokens of the rest of a query, each with the closing marks that are awaited behind it. -/
def trace (scanner : Scanner) : List Char → List (Token × List Char)
  | [] => scanner.pending.map (scanner.stamp scanner)
  | char :: rest =>
      let step := scanner.next char rest
      step.1.map (scanner.stamp step.2) ++ step.2.trace rest

/-- The tokens of the trace are those of the query. -/
theorem map_trace (scanner : Scanner) (chars : List Char) :
    (scanner.trace chars).map Prod.fst = scanner.run chars := by
  have hstamp (before after : Scanner) (tokens : List Token) :
      (tokens.map (before.stamp after)).map Prod.fst = tokens := by
    rw [List.map_map]
    refine (List.map_congr_left fun token _ => ?_).trans (List.map_id tokens)
    cases token <;> rfl
  induction chars generalizing scanner with
  | nil => exact hstamp _ _ _
  | cons char rest ih => rw [trace, List.map_append, hstamp, ih, run]

end Scanner

/-- Tokens with what is awaited behind each, every one of them shifting what is awaited before it. -/
inductive Follow : List Char → List (Token × List Char) → Prop where
  | nil (awaiting : List Char) : Follow awaiting []
  | cons {awaiting after : List Char} {token : Token} {trace : List (Token × List Char)}
      (shifts : token.Shifts awaiting after) (later : Follow after trace) :
      Follow awaiting ((token, after) :: trace)

namespace Scanner

/-- A text that has been read changes nothing of what is awaited. -/
theorem follow_pending {scanner : Scanner} (after : Scanner) {trace : List (Token × List Char)}
    (h : Follow scanner.awaiting trace) :
    Follow scanner.awaiting (scanner.pending.map (scanner.stamp after) ++ trace) := by
  rcases scanner.pending_cases with ⟨-, hpending⟩ | ⟨-, hpending⟩
  · rw [hpending]
    exact h
  · rw [hpending]
    exact .cons (.text _ _) h

/-- What is awaited behind the tokens of one character follows from what is awaited before it. -/
theorem Advances.follow {char : Char} {rest : List Char} {scanner after : Scanner}
    {tokens : List Token} (h : scanner.Advances char rest tokens after)
    {trace : List (Token × List Char)} (hlater : Follow after.awaiting trace) :
    Follow scanner.awaiting (tokens.map (scanner.stamp after) ++ trace) := by
  cases h with
  | passed | collected | skipped | begun => exact hlater
  | closed awaiting reading =>
      rw [List.map_append, List.append_assoc]
      exact follow_pending _ (.cons (.closing awaiting char) hlater)
  | recognised awaiting other dense keyword =>
      rcases (keyword_cases keyword).2 with ⟨joiner, -, rfl⟩ | ⟨chosen, -, rfl⟩
      · exact .cons (.operator awaiting joiner) hlater
      · exact .cons (.aspect awaiting chosen) hlater
  | opened awaiting other dense keyword partners => exact .cons (.opening awaiting partners) hlater

/-- What is awaited behind the tokens of a query follows from one token to the next. -/
theorem follow_trace (scanner : Scanner) (chars : List Char) :
    Follow scanner.awaiting (scanner.trace chars) := by
  induction chars generalizing scanner with
  | nil =>
      have hpending := follow_pending scanner (Follow.nil scanner.awaiting)
      rwa [List.append_nil] at hpending
  | cons char rest ih => exact (scanner.advances_next char rest).follow (ih _)

end Scanner

/-! ## The open groups -/

/-- The open groups of an outline are those whose closing marks are awaited, and the current node is
none of them. -/
structure Outline.Awaits (outline : Outline) (awaiting : List Char) : Prop where
  settled : outline.focus.kind.openMark? = none
  partners : outline.opened.map closingMark? = awaiting.map some

namespace Outline

variable {outline : Outline} {awaiting after : List Char}

/-- The open groups are in the levels where the current node is none of them. -/
theorem opened_of_settled (h : outline.focus.kind.openMark? = none) :
    outline.opened = outline.levels.filterMap fun level => level.kind.openMark? := by
  rw [opened, h]
  rfl

/-- A token is built in, and the open groups are again those whose closing marks are awaited. -/
theorem Awaits.step {token : Token} (h : outline.Awaits awaiting)
    (hshifts : token.Shifts awaiting after) :
    ∃ next, outline.step token = some next ∧ next.Awaits after := by
  have hpartners := h.partners
  rw [opened_of_settled h.settled] at hpartners
  cases hshifts with
  | text => exact ⟨_, rfl, rfl, hpartners⟩
  | aspect => exact ⟨_, rfl, rfl, hpartners⟩
  | operator => exact ⟨_, rfl, rfl, hpartners⟩
  | opening _ hmark => exact ⟨_, rfl, rfl, congrArg₂ List.cons hmark hpartners⟩
  | closing _ mark =>
      cases hopened : outline.opened with
      | nil => cases hopened ▸ h.partners
      | cons opener outer =>
          obtain ⟨next, hclose, hkind, houter⟩ := close_of_opened hopened
          have hpartner := h.partners
          rw [hopened] at hpartner
          refine ⟨next, hclose, by rw [hkind]; rfl, ?_⟩
          rw [houter]
          exact (List.cons.inj hpartner).2

/-- As many tokens as one likes are built in. -/
theorem Awaits.read {before rest : List (Token × List Char)} (h : outline.Awaits awaiting)
    (hfollow : Follow awaiting (before ++ rest)) :
    ∃ reached middle, outline.read (before.map Prod.fst) = some reached ∧ reached.Awaits middle ∧
      Follow middle rest := by
  induction before generalizing outline awaiting with
  | nil => exact ⟨outline, awaiting, rfl, h, hfollow⟩
  | cons entry before ih =>
      cases hfollow with
      | cons hshifts hlater =>
          obtain ⟨next, hstep, hnext⟩ := h.step hshifts
          obtain ⟨reached, middle, hread, hreached⟩ := ih hnext hlater
          exact ⟨reached, middle, (read_cons hstep _).trans hread, hreached⟩

/-- At the start there is no open group. -/
theorem awaits_start : start.Awaits [] :=
  ⟨rfl, rfl⟩

end Outline

/-- The open groups above the current node, the nearest one first, are those whose closing marks are
awaited. -/
def Growth.Awaits (growth : Growth) (groups : List (Nat × Char)) (awaiting : List Char) : Prop :=
  (∃ length, growth.1.Climbs length growth.2 groups ∧ length ≤ growth.1.nodes.size) ∧
    groups.map (fun group => closingMark? group.2) = awaiting.map some

/-- An array has the open groups of its outline. -/
theorem Growth.Follows.awaits {growth : Growth} {outline : Outline} {awaiting : List Char}
    (h : growth.Follows outline) (hawaits : outline.Awaits awaiting) :
    ∃ groups, growth.Awaits groups awaiting := by
  obtain ⟨length, groups, hclimbs, hlength, hmarks⟩ := h.climbs
  refine ⟨groups, ⟨length, hclimbs, hlength⟩, ?_⟩
  rw [← hawaits.partners, ← hmarks, List.map_map]
  rfl

/-- A closing mark that is awaited closes the group of which it is the partner. -/
theorem Growth.Awaits.close {growth : Growth} {groups : List (Nat × Char)} {awaiting : List Char}
    {mark : Char} (h : growth.Awaits groups (mark :: awaiting)) :
    ∃ place opener outer node, groups = (place, opener) :: outer ∧ closingMark? opener = some mark ∧
      growth.1.nodes[place]? = some node ∧ node.kind = .openGroup opener ∧
      growth.step (.closing mark) =
        .ok (growth.1.put place { node with kind := .closedGroup opener }, place) := by
  obtain ⟨⟨length, hclimbs, hlength⟩, hpartners⟩ := h
  cases groups with
  | nil => cases hpartners
  | cons group outer =>
      obtain ⟨place, opener⟩ := group
      obtain ⟨node, hfound, hkind, hclose⟩ := hclimbs.close_group hlength
      exact ⟨place, opener, outer, node, rfl, (List.cons.inj hpartners).1, hfound, hkind, hclose⟩

/-- While the tokens of a query are built in, the open groups above the current node are at every
token those whose closing marks the reader awaits, so that every closing mark closes the group that
its partner opened. Every query is built to the end, and is rejected exactly if its tree is too
deep. -/
theorem nesting_agrees (query : String) :
    (Scanner.start.trace query.toList).map Prod.fst = tokenize query ∧
    (∀ before token awaited later,
      Scanner.start.trace query.toList = before ++ (token, awaited) :: later →
      ∃ awaiting growth groups next remaining,
        grow (before.map Prod.fst) = .ok growth ∧ growth.Awaits groups awaiting ∧
        growth.step token = .ok next ∧ next.Awaits remaining awaited ∧
        ∀ mark, token = .closing mark →
          ∃ place opener outer node, groups = (place, opener) :: outer ∧
            closingMark? opener = some mark ∧ awaiting = mark :: awaited ∧
            growth.1.nodes[place]? = some node ∧ node.kind = .openGroup opener ∧
            next = (growth.1.put place { node with kind := .closedGroup opener }, place)) ∧
    ∃ growth, grow (tokenize query) = .ok growth ∧ growth.1.Shows 0 growth.1.toTree ∧
      build (tokenize query) =
        if maxDepth < growth.1.toTree.depth then .error .tooDeep else .ok growth.1 := by
  have hfollow := Scanner.start.follow_trace query.toList
  have hmap : (Scanner.start.trace query.toList).map Prod.fst = tokenize query :=
    Scanner.start.map_trace query.toList
  refine ⟨hmap, fun before token awaited later htrace => ?_, ?_⟩
  · -- The outline of the tokens before is the invariant; the array is followed through it.
    rw [htrace] at hfollow
    obtain ⟨reached, awaiting, hread, hawaits, hrest⟩ := Outline.awaits_start.read hfollow
    obtain ⟨growth, hgrow, hfollows⟩ := grow_of_read hread
    obtain ⟨groups, hgroups⟩ := hfollows.awaits hawaits
    cases hrest with
    | cons hshifts _ =>
        obtain ⟨outline, hstep, hnext⟩ := hawaits.step hshifts
        have hreaches := hfollows.step token
        rw [hstep] at hreaches
        obtain ⟨next, hgrown, hbuilt⟩ := hreaches
        obtain ⟨remaining, hremaining⟩ := hbuilt.awaits hnext
        refine ⟨awaiting, growth, groups, next, remaining, hgrow, hgroups, hgrown, hremaining, ?_⟩
        rintro mark rfl
        cases hshifts
        obtain ⟨place, opener, outer, node, rfl, hpartner, hfound, hkind, hclosed⟩ := hgroups.close
        exact ⟨place, opener, outer, node, rfl, hpartner, rfl, hfound, hkind,
          Except.ok.inj (hgrown.symm.trans hclosed)⟩
  · have hwhole : Follow [] (Scanner.start.trace query.toList ++ []) := by
      rw [List.append_nil]
      exact hfollow
    obtain ⟨outline, awaiting, hread, -⟩ := Outline.awaits_start.read hwhole
    rw [hmap] at hread
    obtain ⟨growth, hgrow, hfollows⟩ := grow_of_read hread
    obtain ⟨htree, hshows, -⟩ := hfollows.whole
    exact ⟨growth, hgrow, htree ▸ hshows, hfollows.build_eq hgrow⟩

end Notekeeper.Query
