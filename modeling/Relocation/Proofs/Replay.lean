import Relocation.Proofs.DraftCalls

/-!
# Refused calls leave no trace

A draft goes through three states, and a call that does not fit the state is refused.  This file
says that the refused calls of a sequence might as well not have been made: a fresh draft that is
given only the calls that succeeded goes through the same steps.

The lemmas are inductions on the sequence (`Draft.Performs`), each carried by what a single call
does (`Draft.Answers`): the states only move forward, so a table is opened once and built once; the
location counter only grows, and only when a table is appended.  The one refusal that changes the
draft, a table without room, closes it, and from then on every call is refused
(`Draft.Performs.succeeded_of_closed`).

The main result is `Draft.replay_succeeded`.
-/

namespace Relocation

namespace DraftReply

instance : DecidablePred Refused
  | opened (.error _) => .isTrue trivial
  | added (.error _) => .isTrue trivial
  | closed (.error _) => .isTrue trivial
  | opened (.ok _) => .isFalse id
  | added (.ok _) => .isFalse id
  | closed (.ok _) => .isFalse id

/-- The table that was built. -/
def table? : DraftReply → Option BuiltTable
  | closed (.ok table) => some table
  | _ => none

/-- A refused call has built nothing. -/
lemma Refused.table?_eq_none {reply : DraftReply} (h : reply.Refused) : reply.table? = none := by
  unfold Refused at h
  split at h
  · rfl
  · rfl
  · rfl
  · exact h.elim

end DraftReply

namespace Draft

/-- The steps whose calls were not refused. -/
def succeeded (steps : List DraftStep) : List DraftStep :=
  steps.filter fun step => ¬ step.reply.Refused

/-- How often a table was opened. -/
def openings (steps : List DraftStep) : Nat :=
  steps.countP fun step => step.reply = .opened (.ok ())

/-- The tables that were built, in order. -/
def builtTables (steps : List DraftStep) : List BuiltTable :=
  steps.filterMap fun step => step.reply.table?

section Steps

variable {step : DraftStep} {steps : List DraftStep}

/-- A refused step is left out. -/
lemma succeeded_cons_of_refused (h : step.reply.Refused) :
    succeeded (step :: steps) = succeeded steps :=
  List.filter_cons_of_neg (by simpa using h)

/-- A step that was not refused is kept. -/
lemma succeeded_cons_of_not_refused (h : ¬ step.reply.Refused) :
    succeeded (step :: steps) = step :: succeeded steps :=
  List.filter_cons_of_pos (by simpa using h)

/-- What a sequence has built is what its first call has built and then the rest. -/
lemma builtTables_cons (step : DraftStep) (steps : List DraftStep) :
    builtTables (step :: steps) = step.reply.table?.toList ++ builtTables steps := by
  cases h : step.reply.table? <;> simp [builtTables, h]

/-- Where no step has succeeded, nothing was built. -/
lemma builtTables_eq_nil (h : succeeded steps = []) : builtTables steps = [] := by
  rw [builtTables, List.filterMap_eq_nil_iff]
  intro step hstep
  have hrefused : step.reply.Refused := by
    simpa using List.filter_eq_nil_iff.mp h step hstep
  exact hrefused.table?_eq_none

end Steps

/-! ### One call -/

section OneCall

variable {draft after : Draft} {call : DraftCall} {reply : DraftReply}

/-- A table that is appended ends behind the location counter. -/
lemma locationCounter_le_listEnd {built : BuiltTable} {table : OpenTable}
    (hstart : draft.tableAddress .append = .ok (some built.address))
    (hlaysOut : built.LaysOut draft.mode draft.assembledBase table) :
    draft.locationCounter ≤ built.header.listEnd := by
  have haddress := Doubleword.toNat_of_alignUp hstart
  have hfirst := hlaysOut.firstEntry
  have hend := hlaysOut.listEnd
  rw [UInt64.le_iff_toNat_le]
  omega

/-- The location counter never moves back. -/
lemma Answers.locationCounter_le (h : draft.Answers call reply after) :
    draft.locationCounter ≤ after.locationCounter := by
  cases h with
  | refused hrefused => exact UInt64.le_refl _
  | opens hstate lengthBits => exact UInt64.le_refl _
  | adds hstate made admitted => exact UInt64.le_refl _
  | overflows hstate => exact UInt64.le_refl _
  | @builds placement table built hstate hstart laysOut =>
    cases placement with
    | append => exact locationCounter_le_listEnd hstart laysOut
    | separate address => exact UInt64.le_refl _

/-- The location counter moves only when a table is appended. -/
lemma Answers.appends_of_ne (h : draft.Answers call reply after)
    (hne : after.locationCounter ≠ draft.locationCounter) :
    call = .closeTable .append ∧ ∃ table, reply = .closed (.ok table) := by
  cases h with
  | refused hrefused => exact absurd rfl hne
  | opens hstate lengthBits => exact absurd rfl hne
  | adds hstate made admitted => exact absurd rfl hne
  | overflows hstate => exact absurd rfl hne
  | @builds placement table built hstate hstart laysOut =>
    cases placement with
    | append => exact ⟨rfl, built, rfl⟩
    | separate address => exact absurd rfl hne

/-- Only an idle draft opens a table, and then it is idle no more. -/
lemma Answers.idle_of_idle (h : draft.Answers call reply after) (hafter : after.state = .idle) :
    draft.state = .idle ∧ reply ≠ .opened (.ok ()) := by
  cases h with
  | refused hrefused =>
    refine ⟨hafter, ?_⟩
    rintro rfl
    exact hrefused
  | opens hstate lengthBits => cases hafter
  | adds hstate made admitted => cases hafter
  | overflows hstate => cases hafter
  | builds hstate hstart laysOut => cases hafter

/-- A table that is built is closed. -/
lemma Answers.closed_of_table? (h : draft.Answers call reply after) {built : BuiltTable}
    (htable : reply.table? = some built) : after.state = .closed := by
  cases h with
  | refused hrefused =>
    rw [hrefused.table?_eq_none] at htable
    cases htable
  | opens hstate lengthBits => cases htable
  | adds hstate made admitted => cases htable
  | overflows hstate => rfl
  | builds hstate hstart laysOut => rfl

/-- A refused call leaves the draft as it was or closes it. -/
lemma Answers.after_of_refused (h : draft.Answers call reply after) (hrefused : reply.Refused) :
    after = draft ∨ after = { draft with state := .closed } := by
  cases h with
  | refused _ => exact Or.inl rfl
  | opens hstate lengthBits => exact hrefused.elim
  | adds hstate made admitted => exact hrefused.elim
  | overflows hstate => exact Or.inr rfl
  | builds hstate hstart laysOut => exact hrefused.elim

end OneCall

/-! ### Sequences of calls -/

namespace Performs

variable {draft final : Draft} {calls : List DraftCall} {steps : List DraftStep}

/-- The location counter never moves back. -/
lemma locationCounter_le (h : draft.Performs calls steps final) :
    draft.locationCounter ≤ final.locationCounter := by
  induction h with
  | nil draft => exact UInt64.le_refl _
  | cons hanswer answers tail ih => exact UInt64.le_trans answers.locationCounter_le ih

/-- Once the table is closed every call is refused, and the draft stays as it is. -/
lemma succeeded_of_closed (h : draft.Performs calls steps final)
    (hclosed : draft.state = .closed) : succeeded steps = [] ∧ final = draft := by
  induction h with
  | nil draft => exact ⟨rfl, rfl⟩
  | cons hanswer answers tail ih =>
    obtain ⟨hrefused, rfl⟩ := answers.refused_of_closed hclosed
    rw [succeeded_cons_of_refused hrefused]
    exact ih hclosed

/-- A draft that is not idle opens no table. -/
lemma openings_of_ne_idle (h : draft.Performs calls steps final) (hstate : draft.state ≠ .idle) :
    openings steps = 0 := by
  induction h with
  | nil draft => rfl
  | @cons draft after final call calls reply steps hanswer answers tail ih =>
    have hafter : after.state ≠ .idle := fun hidle => hstate (answers.idle_of_idle hidle).1
    have hreply : reply ≠ .opened (.ok ()) := by
      rintro rfl
      cases answers with
      | refused hrefused => exact hrefused
      | opens hidle lengthBits => exact hstate hidle
    rw [openings, List.countP_cons_of_neg (by simpa using hreply)]
    exact ih hafter

/-- A table is opened at most once. -/
lemma openings_le_one (h : draft.Performs calls steps final) : openings steps ≤ 1 := by
  induction h with
  | nil draft => exact Nat.zero_le 1
  | @cons draft after final call calls reply steps hanswer answers tail ih =>
    by_cases hidle : after.state = .idle
    · rw [openings, List.countP_cons_of_neg (by simpa using (answers.idle_of_idle hidle).2)]
      exact ih
    · have hnone : steps.countP (fun step => step.reply = .opened (.ok ())) = 0 :=
        tail.openings_of_ne_idle hidle
      rw [openings, List.countP_cons, hnone]
      split
      · exact le_rfl
      · exact Nat.zero_le 1

/-- A table is built at most once: the draft is closed by it. -/
lemma length_builtTables_le_one (h : draft.Performs calls steps final) :
    (builtTables steps).length ≤ 1 := by
  induction h with
  | nil draft => exact Nat.zero_le 1
  | @cons draft after final call calls reply steps hanswer answers tail ih =>
    rw [builtTables_cons]
    cases htable : reply.table? with
    | none => exact ih
    | some built =>
      have hrest := tail.succeeded_of_closed (answers.closed_of_table? htable)
      rw [builtTables_eq_nil hrest.1]
      exact le_rfl

/-- The calls that succeeded, made of the same draft without the others, take the same steps and
leave the same location counter, and the same draft if a table was built.  The induction is on the
sequence: a refused call leaves the draft to the rest of the sequence as it was, unless it closes
the table, and then nothing succeeds any more. -/
theorem replay (h : draft.Performs calls steps final) :
    ∃ final', draft.Performs ((succeeded steps).map DraftStep.call) (succeeded steps) final' ∧
      final'.locationCounter = final.locationCounter ∧
      (builtTables steps ≠ [] → final' = final) := by
  induction h with
  | nil draft => exact ⟨draft, Performs.nil draft, rfl, fun _ => rfl⟩
  | @cons draft after final call calls reply steps hanswer answers tail ih =>
    by_cases hrefused : reply.Refused
    · rw [succeeded_cons_of_refused hrefused, builtTables_cons, hrefused.table?_eq_none]
      rcases answers.after_of_refused hrefused with rfl | rfl
      · exact ih
      · obtain ⟨hnone, rfl⟩ := tail.succeeded_of_closed rfl
        rw [hnone, builtTables_eq_nil hnone]
        exact ⟨draft, Performs.nil draft, rfl, fun hne => absurd rfl hne⟩
    · obtain ⟨final', hperforms, hcounter, hfinal⟩ := ih
      rw [succeeded_cons_of_not_refused hrefused, builtTables_cons]
      refine ⟨final', Performs.cons hanswer answers hperforms, hcounter, ?_⟩
      cases htable : reply.table? with
      | none => exact hfinal
      | some built =>
        -- the table is closed by this call, so neither sequence changes the draft any more
        intro _
        have hclosed := answers.closed_of_table? htable
        exact (hperforms.succeeded_of_closed hclosed).2.trans
          (tail.succeeded_of_closed hclosed).2.symm

end Performs

/-! ### The guarantee -/

/-- Whatever calls are made of a new draft, none is stopped, a table is opened at most once and
built at most once, and the location counter never lies below the region and moves only when a table
is appended.  A fresh draft that is given only the calls that succeeded takes the same steps, with
the same replies, and ends with the same location counter; if a table was built, it ends as the same
draft. -/
theorem replay_succeeded (mode : AddressingMode) (assembledBase : Doubleword) (size : Nat)
    (calls : List DraftCall) :
    ∃ steps final, (new mode assembledBase size).perform calls = .ok (steps, final) ∧
      steps.map DraftStep.call = calls ∧ openings steps ≤ 1 ∧ (builtTables steps).length ≤ 1 ∧
      assembledBase ≤ final.locationCounter ∧
      (∀ step ∈ steps, assembledBase ≤ step.before.locationCounter ∧
        assembledBase ≤ step.after.locationCounter ∧
        (step.after.locationCounter ≠ step.before.locationCounter →
          step.call = .closeTable .append ∧ ∃ table, step.reply = .closed (.ok table))) ∧
      ∃ final', (new mode assembledBase size).perform ((succeeded steps).map DraftStep.call) =
          .ok (succeeded steps, final') ∧
        final'.locationCounter = final.locationCounter ∧
        (builtTables steps ≠ [] → final' = final) := by
  have hordered := ordered_new mode assembledBase size
  have hbase : assembledBase ≤ (new mode assembledBase size).locationCounter :=
    hordered (by simp [new])
  obtain ⟨steps, final, hperforms⟩ := exists_performs hordered calls
  obtain ⟨final', hreplay, hcounter, hfinal⟩ := hperforms.replay
  refine ⟨steps, final, hperforms.perform_eq, hperforms.map_call, hperforms.openings_le_one,
    hperforms.length_builtTables_le_one, UInt64.le_trans hbase hperforms.locationCounter_le, ?_,
    final', hreplay.perform_eq, hcounter, hfinal⟩
  intro step hstep
  obtain ⟨_, _, _, _, -, hfront, hanswers, -⟩ := hperforms.exists_split hstep
  have hbefore := UInt64.le_trans hbase hfront.locationCounter_le
  exact ⟨hbefore, UInt64.le_trans hbefore hanswers.locationCounter_le, hanswers.appends_of_ne⟩

/-- Of the unruly calls four succeed; without the others they build the same table. -/
theorem replay_succeeded_unruly :
    ∃ steps final, (new .bits24 0x1000 0x10).perform unrulyCalls = .ok (steps, final) ∧
      builtTables steps ≠ [] ∧
      (succeeded steps).map DraftStep.call =
        [.openTable 3 none,
          .addEntry ⟨⟨"WORD", 0x1000, none⟩, .explicit 4 0⟩,
          .addEntry ⟨⟨"HALF", 0x1008, some 2⟩, ⟨none, none, some 4⟩⟩,
          .closeTable .append] ∧
      (new .bits24 0x1000 0x10).perform
          [.openTable 3 none,
            .addEntry ⟨⟨"WORD", 0x1000, none⟩, .explicit 4 0⟩,
            .addEntry ⟨⟨"HALF", 0x1008, some 2⟩, ⟨none, none, some 4⟩⟩,
            .closeTable .append] =
        .ok (succeeded steps, final) ∧
      final.locationCounter = 0x1034 := by
  obtain ⟨steps, final, hperform, -, -, -, -, -, final', hreplay, -, hfinal⟩ :=
    replay_succeeded .bits24 0x1000 0x10 unrulyCalls
  have hrun : ((new .bits24 0x1000 0x10).perform unrulyCalls).map
      (fun result => ((builtTables result.1).length, (succeeded result.1).map DraftStep.call,
        result.2.locationCounter)) =
        .ok (1, [.openTable 3 none,
          .addEntry ⟨⟨"WORD", 0x1000, none⟩, .explicit 4 0⟩,
          .addEntry ⟨⟨"HALF", 0x1008, some 2⟩, ⟨none, none, some 4⟩⟩,
          .closeTable .append], 0x1034) := by
    decide +kernel
  rw [hperform] at hrun
  simp only [Except.map, Except.ok.injEq, Prod.mk.injEq] at hrun
  obtain ⟨hcount, hcalls, hcounter⟩ := hrun
  have hbuilt : builtTables steps ≠ [] := by
    intro hnone
    rw [hnone] at hcount
    cases hcount
  rw [hcalls, hfinal hbuilt] at hreplay
  exact ⟨steps, final, hperform, hbuilt, hcalls, hreplay, hcounter⟩

end Draft

end Relocation
