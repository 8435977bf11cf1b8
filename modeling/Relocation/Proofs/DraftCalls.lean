import Relocation.Proofs.Building

/-!
# Sequences of calls to a draft

The caller of a draft opens a table, adds address constants and closes the table, in any order and
as often as it likes; calls that make no sense are refused.  This file follows a draft through any
sequence of such calls.

`Draft.Answers` lists what a single call can do, with all that is known in each case, and
`Draft.exists_answers` says that every call does one of these things; in particular no program check
stops it.  `Draft.Performs` is a sequence of calls with what each of them did.  `Draft.Keeps` is its
invariant: the entries accepted so far are what the open table holds.  One call keeps it
(`Draft.Answers.keeps`), and so do all of them (`Draft.Performs.keeps`).  Hence a table that is
closed anywhere in a sequence holds the accepted entries of the whole sequence
(`Draft.Performs.builds`), and a sequence that only adds address constants leaves the draft with the
accepted ones at the end of its list (`Draft.Performs.eq_extend`).

The main results are `Draft.entries_eq_accepted`, which says that the list of the closed table reads
back as exactly these entries, and `Draft.header_reads_cut`, which says what its written header
reads back as.  Nothing keeps the addresses of a header below the size of its pointers, so that a
narrow header may lose their high-order bytes.
-/

namespace Relocation

/-- One call to a draft. -/
inductive DraftCall where
  | openTable (entrySize : UInt8) (transferAddress : Option Doubleword)
  | addEntry (constant : AddressConstant)
  | closeTable (placement : Placement)
  deriving DecidableEq

/-- What a call to a draft gives back. -/
inductive DraftReply where
  | opened (result : Except BuildError Unit)
  | added (result : Except BuildError Entry)
  | closed (result : Except BuildError BuiltTable)
  deriving DecidableEq

namespace DraftReply

/-- The call was refused. -/
def Refused : DraftReply → Prop
  | opened (.error _) => True
  | added (.error _) => True
  | closed (.error _) => True
  | _ => False

/-- The entry for an address constant that was accepted. -/
def entry? : DraftReply → Option Entry
  | added (.ok entry) => some entry
  | _ => none

/-- A refused call has accepted nothing. -/
lemma Refused.entry?_eq_none {reply : DraftReply} (h : reply.Refused) : reply.entry? = none := by
  unfold Refused at h
  split at h
  · rfl
  · rfl
  · rfl
  · exact h.elim

end DraftReply

/-- One call to a draft and what it did. -/
structure DraftStep where
  before : Draft
  call : DraftCall
  reply : DraftReply
  after : Draft
  deriving DecidableEq

/-- The open table holds these entries, each admitted for a region of the given size, packed by a
codec of the mode. -/
structure OpenTable.Holds (table : OpenTable) (mode : AddressingMode) (regionSize : Nat)
    (entries : List Entry) : Prop where
  packed : table.entries = table.codec.packList entries
  lengthBits : table.codec.lengthBits = mode.lengthBits
  admitted : ∀ entry ∈ entries, entry.Admitted mode table.codec regionSize

/-- The entries of an open table take up their size in the list. -/
lemma OpenTable.Holds.length_entries {table : OpenTable} {mode : AddressingMode} {regionSize : Nat}
    {entries : List Entry} (h : table.Holds mode regionSize entries) :
    table.entries.length = entries.length * table.codec.entrySize := by
  rw [h.packed, EntryCodec.length_packList]

namespace BuiltTable.LaysOut

variable {built : BuiltTable} {mode : AddressingMode} {assembledBase : Doubleword}
  {table : OpenTable} {regionSize : Nat} {entries : List Entry}

/-- The list of a built table reads back as the entries that the open table held. -/
lemma entries_eq_ok (h : built.LaysOut mode assembledBase table)
    (hholds : table.Holds mode regionSize entries) :
    built.header.entries built.entries = .ok entries := by
  have hfits : ∀ entry ∈ entries, table.codec.Fits entry :=
    fun entry hentry => (hholds.admitted entry hentry).fits
  simp only [Header.entries, h.codec?_eq hholds.lengthBits, h.entries, hholds.packed]
  exact EntryCodec.readList_packList hfits

/-- A built table counts the entries that the open table held. -/
lemma entryCount_eq (h : built.LaysOut mode assembledBase table)
    (hholds : table.Holds mode regionSize entries) : built.entryCount = entries.length := by
  rw [entryCount, h.toNat_entrySize, h.entries, hholds.length_entries,
    Nat.mul_div_cancel _ table.codec.entrySize_pos]

/-- The header of a built table is read with its addresses cut to its pointers. -/
lemma read_encode (h : built.LaysOut mode assembledBase table) :
    Header.read built.encode built.pointerSize =
      .ok (some (built.header.cutTo built.pointerSize)) := by
  have hsize : 1 ≤ built.pointerSize ∧ built.pointerSize ≤ 8 := by
    rw [h.pointerSize]
    cases mode <;> decide
  exact Header.read_encode hsize.1 hsize.2 built.header built.entries

end BuiltTable.LaysOut

namespace Draft

/-- Makes one call. -/
def answer (draft : Draft) : DraftCall → Checked (DraftReply × Draft)
  | .openTable entrySize transferAddress =>
    let (result, after) := draft.openTable entrySize transferAddress
    .ok (.opened result, after)
  | .addEntry constant => do
    let (result, after) ← draft.addEntry constant
    return (.added result, after)
  | .closeTable placement => do
    let (result, after) ← draft.closeTable placement
    return (.closed result, after)

/-- Makes calls one after the other, whether or not they are refused. -/
def perform : Draft → List DraftCall → Checked (List DraftStep × Draft)
  | draft, [] => .ok ([], draft)
  | draft, call :: rest => do
    let (reply, after) ← draft.answer call
    let (steps, final) ← after.perform rest
    return (⟨draft, call, reply, after⟩ :: steps, final)

/-- The entries for the address constants that were accepted, in order. -/
def accepted (steps : List DraftStep) : List Entry :=
  steps.filterMap fun step => step.reply.entry?

/-! ### One call -/

/-- What a call does to a draft, by the way it is answered. -/
inductive Answers (draft : Draft) : DraftCall → DraftReply → Draft → Prop
  /-- The call is refused and nothing changes. -/
  | refused {call : DraftCall} {reply : DraftReply} (hrefused : reply.Refused) :
      Answers draft call reply draft
  /-- The table is opened, with an empty list. -/
  | opens {entrySize : UInt8} {transferAddress : Option Doubleword} {codec : EntryCodec}
      (hstate : draft.state = .idle) (lengthBits : codec.lengthBits = draft.mode.lengthBits) :
      Answers draft (.openTable entrySize transferAddress) (.opened (.ok ()))
        { draft with state := .opened ⟨codec, transferAddress.getD 0, []⟩ }
  /-- An address constant is accepted, and its entry goes to the end of the list. -/
  | adds {constant : AddressConstant} {table : OpenTable} {entry : Entry}
      (hstate : draft.state = .opened table) (made : draft.entryFor? constant = some entry)
      (admitted : entry.Admitted draft.mode table.codec
        (draft.locationCounter.toNat - draft.assembledBase.toNat)) :
      Answers draft (.addEntry constant) (.added (.ok entry))
        { draft with state := .opened (table.extend [entry]) }
  /-- The table does not fit below the top of storage.  It is closed all the same. -/
  | overflows {placement : Placement} {table : OpenTable} {start : Doubleword}
      (hstate : draft.state = .opened table) :
      Answers draft (.closeTable placement) (.closed (.error (.tableOverflow start)))
        { draft with state := .closed }
  /-- The table is laid out and closed. -/
  | builds {placement : Placement} {table : OpenTable} {built : BuiltTable}
      (hstate : draft.state = .opened table)
      (hstart : draft.tableAddress placement = .ok (some built.address))
      (laysOut : built.LaysOut draft.mode draft.assembledBase table) :
      Answers draft (.closeTable placement) (.closed (.ok built))
        { draft with locationCounter := draft.counterAfter built placement, state := .closed }

/-- Until the table is closed, the region does not end before it starts. -/
def Ordered (draft : Draft) : Prop :=
  draft.state ≠ .closed → draft.assembledBase ≤ draft.locationCounter

/-- Without an open table an address constant is refused. -/
lemma exists_addEntry_refused {draft : Draft} (h : ¬ ∃ table, draft.state = .opened table)
    (constant : AddressConstant) : ∃ e, draft.addEntry constant = .ok (.error e, draft) := by
  unfold addEntry
  cases hstate : draft.state with
  | idle => exact ⟨_, rfl⟩
  | closed => exact ⟨_, rfl⟩
  | opened table => exact absurd ⟨table, hstate⟩ h

/-- Without an open table there is nothing to close. -/
lemma exists_closeTable_refused {draft : Draft} (h : ¬ ∃ table, draft.state = .opened table)
    (placement : Placement) : ∃ e, draft.closeTable placement = .ok (.error e, draft) := by
  unfold closeTable
  cases hstate : draft.state with
  | idle => exact ⟨_, rfl⟩
  | closed => exact ⟨_, rfl⟩
  | opened table => exact absurd ⟨table, hstate⟩ h

/-- Every call is answered in one of the ways listed. -/
theorem exists_answers {draft : Draft} (hordered : draft.Ordered) (call : DraftCall) :
    ∃ reply after, draft.answer call = .ok (reply, after) ∧ draft.Answers call reply after := by
  cases call with
  | openTable entrySize transferAddress =>
    rw [answer]
    rcases draft.openTable_cases entrySize transferAddress with
      ⟨codec, hidle, -, hbits, hopen⟩ | ⟨e, hopen⟩
    · rw [hopen]
      exact ⟨_, _, rfl, Answers.opens hidle hbits⟩
    · rw [hopen]
      exact ⟨.opened (.error e), draft, rfl, Answers.refused trivial⟩
  | addEntry constant =>
    rw [answer]
    by_cases hopen : ∃ table, draft.state = .opened table
    · obtain ⟨table, hstate⟩ := hopen
      have hle := hordered (by simp [hstate])
      rcases addEntry_cases hle hstate constant with
        ⟨entry, packed, hentry, hpacked, hadd⟩ | ⟨entry, -, -, hadd⟩ | ⟨e, -, -, hadd⟩
      · rw [hadd]
        exact ⟨_, _, rfl,
          Answers.adds hstate hentry (admitted_of_entryFor? hle hentry hpacked)⟩
      · rw [hadd]
        exact ⟨.added (.error _), draft, rfl, Answers.refused trivial⟩
      · rw [hadd]
        exact ⟨.added (.error e), draft, rfl, Answers.refused trivial⟩
    · obtain ⟨e, hadd⟩ := exists_addEntry_refused hopen constant
      rw [hadd]
      exact ⟨.added (.error e), draft, rfl, Answers.refused trivial⟩
  | closeTable placement =>
    rw [answer]
    by_cases hopen : ∃ table, draft.state = .opened table
    · obtain ⟨table, hstate⟩ := hopen
      rcases closeTable_cases hstate placement with
        ⟨start, hclose⟩ | ⟨built, hstart, hlaysOut, hclose⟩
      · rw [hclose]
        exact ⟨_, _, rfl, Answers.overflows hstate⟩
      · rw [hclose]
        exact ⟨_, _, rfl, Answers.builds hstate hstart hlaysOut⟩
    · obtain ⟨e, hclose⟩ := exists_closeTable_refused hopen placement
      rw [hclose]
      exact ⟨.closed (.error e), draft, rfl, Answers.refused trivial⟩

/-! ### What a call keeps -/

/-- The draft has accepted these entries, if its table is not closed yet: none before it was opened,
and then those that the open table holds. -/
def Keeps (draft : Draft) (entries : List Entry) : Prop :=
  match draft.state with
  | .idle => entries = []
  | .opened table =>
    table.Holds draft.mode (draft.locationCounter.toNat - draft.assembledBase.toNat) entries
  | .closed => True

/-- A draft whose table has just been opened has accepted nothing. -/
lemma keeps_of_opened {draft : Draft} {codec : EntryCodec} {transferAddress : Doubleword}
    (hstate : draft.state = .opened ⟨codec, transferAddress, []⟩)
    (hbits : codec.lengthBits = draft.mode.lengthBits) : draft.Keeps [] := by
  rw [Keeps, hstate]
  exact ⟨rfl, hbits, fun entry hentry => absurd hentry List.not_mem_nil⟩

namespace Answers

variable {draft after : Draft} {call : DraftCall} {reply : DraftReply}

/-- The mode of a draft and its assembled base never change. -/
lemma mode_eq (h : draft.Answers call reply after) :
    after.mode = draft.mode ∧ after.assembledBase = draft.assembledBase := by
  cases h <;> exact ⟨rfl, rfl⟩

/-- A draft stays in order. -/
lemma ordered (h : draft.Answers call reply after) (hordered : draft.Ordered) :
    after.Ordered := by
  cases h with
  | refused hrefused => exact hordered
  | opens hstate lengthBits => exact fun _ => hordered (by simp [hstate])
  | adds hstate made admitted => exact fun _ => hordered (by simp [hstate])
  | overflows hstate => exact fun hne => absurd rfl hne
  | builds hstate hstart laysOut => exact fun hne => absurd rfl hne

/-- A closed draft refuses every call. -/
lemma refused_of_closed (h : draft.Answers call reply after) (hclosed : draft.state = .closed) :
    reply.Refused ∧ after = draft := by
  cases h with
  | refused hrefused => exact ⟨hrefused, rfl⟩
  | opens hstate lengthBits => simp [hclosed] at hstate
  | adds hstate made admitted => simp [hclosed] at hstate
  | overflows hstate => simp [hclosed] at hstate
  | builds hstate hstart laysOut => simp [hclosed] at hstate

/-- A table that is built lays out the open table, and the draft is closed. -/
lemma exists_laysOut (h : draft.Answers call reply after) {built : BuiltTable}
    (hreply : reply = .closed (.ok built)) :
    ∃ table, draft.state = .opened table ∧ built.LaysOut draft.mode draft.assembledBase table ∧
      after.state = .closed := by
  subst hreply
  cases h with
  | refused hrefused => exact hrefused.elim
  | @builds placement table built hstate hstart laysOut => exact ⟨table, hstate, laysOut, rfl⟩

/-- What a draft has accepted grows by what the call has accepted. -/
theorem keeps (h : draft.Answers call reply after) {entries : List Entry}
    (hkeeps : draft.Keeps entries) : after.Keeps (entries ++ reply.entry?.toList) := by
  cases h with
  | refused hrefused =>
    rwa [hrefused.entry?_eq_none, Option.toList_none, List.append_nil]
  | opens hstate lengthBits =>
    rw [Keeps, hstate] at hkeeps
    subst hkeeps
    exact keeps_of_opened rfl lengthBits
  | @adds constant table entry hstate made admitted =>
    rw [Keeps, hstate] at hkeeps
    obtain ⟨hentries, hbits, hall⟩ := hkeeps
    refine ⟨?_, hbits, ?_⟩
    · change table.entries ++ table.codec.packList [entry] =
        table.codec.packList (entries ++ [entry])
      rw [hentries, EntryCodec.packList, EntryCodec.packList, EntryCodec.packList,
        List.flatMap_append]
    · intro e he
      rcases List.mem_append.mp he with hold | hnew
      · exact hall e hold
      · obtain rfl := List.mem_singleton.mp hnew
        exact admitted
  | overflows hstate => exact trivial
  | builds hstate hstart laysOut => exact trivial

end Answers

/-! ### Sequences of calls -/

/-- What a sequence has accepted is what its first call has accepted and then the rest. -/
lemma accepted_cons (step : DraftStep) (steps : List DraftStep) :
    accepted (step :: steps) = step.reply.entry?.toList ++ accepted steps := by
  cases h : step.reply.entry? <;> simp [accepted, h]

/-- What two sequences have accepted is what the one and then the other has accepted. -/
lemma accepted_append (steps steps' : List DraftStep) :
    accepted (steps ++ steps') = accepted steps ++ accepted steps' :=
  List.filterMap_append

/-- The calls, made of the draft one after the other, take these steps and leave it like this. -/
inductive Performs : Draft → List DraftCall → List DraftStep → Draft → Prop
  | nil (draft : Draft) : Performs draft [] [] draft
  | cons {draft after final : Draft} {call : DraftCall} {calls : List DraftCall}
      {reply : DraftReply} {steps : List DraftStep}
      (hanswer : draft.answer call = .ok (reply, after))
      (answers : draft.Answers call reply after) (tail : Performs after calls steps final) :
      Performs draft (call :: calls) (⟨draft, call, reply, after⟩ :: steps) final

/-- Every sequence of calls is performed, none of them being stopped. -/
theorem exists_performs {draft : Draft} (hordered : draft.Ordered) (calls : List DraftCall) :
    ∃ steps final, draft.Performs calls steps final := by
  induction calls generalizing draft with
  | nil => exact ⟨[], draft, Performs.nil draft⟩
  | cons call calls ih =>
    obtain ⟨reply, after, hanswer, hanswers⟩ := exists_answers hordered call
    obtain ⟨steps, final, hsteps⟩ := ih (hanswers.ordered hordered)
    exact ⟨_, final, Performs.cons hanswer hanswers hsteps⟩

namespace Performs

variable {draft final : Draft} {calls : List DraftCall} {steps : List DraftStep}

/-- What a sequence of calls does is what the draft gives. -/
lemma perform_eq (h : draft.Performs calls steps final) :
    draft.perform calls = .ok (steps, final) := by
  induction h with
  | nil draft => rfl
  | cons hanswer answers tail ih =>
    rw [perform, hanswer, Checked.ok_bind]
    simp only [ih, Checked.ok_bind, Checked.pure_eq_ok]

/-- What a sequence of calls gives is what the calls do one after the other. -/
lemma of_eq_ok (hordered : draft.Ordered) (h : draft.perform calls = .ok (steps, final)) :
    draft.Performs calls steps final := by
  obtain ⟨steps', final', hperforms⟩ := exists_performs hordered calls
  have heq := hperforms.perform_eq
  rw [h] at heq
  cases heq
  exact hperforms

/-- Every call makes one step. -/
lemma map_call (h : draft.Performs calls steps final) : steps.map DraftStep.call = calls := by
  induction h with
  | nil draft => rfl
  | cons hanswer answers tail ih => rw [List.map_cons, ih]

/-- The mode of a draft and its assembled base stay through a sequence of calls. -/
lemma mode_eq (h : draft.Performs calls steps final) :
    final.mode = draft.mode ∧ final.assembledBase = draft.assembledBase := by
  induction h with
  | nil draft => exact ⟨rfl, rfl⟩
  | cons hanswer answers tail ih =>
    obtain ⟨hmode, hbase⟩ := answers.mode_eq
    exact ⟨ih.1.trans hmode, ih.2.trans hbase⟩

/-- A draft stays in order through a sequence of calls, and what it has accepted grows by what the
calls have accepted. -/
theorem keeps (h : draft.Performs calls steps final) (hordered : draft.Ordered)
    {entries : List Entry} (hkeeps : draft.Keeps entries) :
    final.Ordered ∧ final.Keeps (entries ++ accepted steps) := by
  induction h generalizing entries with
  | nil draft => exact ⟨hordered, by simpa [accepted] using hkeeps⟩
  | cons hanswer answers tail ih =>
    obtain ⟨hfinal, hgrown⟩ := ih (answers.ordered hordered) (answers.keeps hkeeps)
    rw [accepted_cons, ← List.append_assoc]
    exact ⟨hfinal, hgrown⟩

/-- Once the table is closed, nothing is accepted any more. -/
lemma accepted_of_closed (h : draft.Performs calls steps final)
    (hclosed : draft.state = .closed) : accepted steps = [] := by
  induction h with
  | nil draft => rfl
  | cons hanswer answers tail ih =>
    obtain ⟨hrefused, rfl⟩ := answers.refused_of_closed hclosed
    rw [accepted_cons, hrefused.entry?_eq_none, ih hclosed, Option.toList_none, List.append_nil]

/-- A sequence of calls can be cut at any of its steps. -/
lemma exists_split (h : draft.Performs calls steps final) {step : DraftStep}
    (hstep : step ∈ steps) :
    ∃ earlier front later back, steps = front ++ step :: back ∧
      draft.Performs earlier front step.before ∧
      step.before.Answers step.call step.reply step.after ∧
      step.after.Performs later back final := by
  induction h with
  | nil draft => cases hstep
  | @cons draft after final call calls reply steps hanswer answers tail ih =>
    rcases List.mem_cons.mp hstep with rfl | hlater
    · exact ⟨[], [], calls, steps, rfl, Performs.nil draft, answers, tail⟩
    · obtain ⟨earlier, front, later, back, rfl, hfront, hanswers, hback⟩ := ih hlater
      exact ⟨_, _, later, back, rfl, Performs.cons hanswer answers hfront, hanswers, hback⟩

/-- If the draft has accepted `entries` so far, a table that is closed anywhere in a sequence holds
these and what the sequence accepts: what was accepted before the table is closed is kept up to
there, and afterwards nothing more is accepted. -/
theorem builds (h : draft.Performs calls steps final) (hordered : draft.Ordered)
    {entries : List Entry} (hkeeps : draft.Keeps entries) {step : DraftStep} (hstep : step ∈ steps)
    {built : BuiltTable} (hreply : step.reply = .closed (.ok built)) :
    ∃ table, built.LaysOut draft.mode draft.assembledBase table ∧
      table.Holds draft.mode (step.before.locationCounter.toNat - draft.assembledBase.toNat)
        (entries ++ accepted steps) := by
  obtain ⟨earlier, front, later, back, rfl, hfront, hanswers, hback⟩ := h.exists_split hstep
  obtain ⟨hmode, hbase⟩ := hfront.mode_eq
  have hkept := (hfront.keeps hordered hkeeps).2
  obtain ⟨table, hstate, hlaysOut, hclosed⟩ := hanswers.exists_laysOut hreply
  have haccepted : accepted (front ++ step :: back) = accepted front := by
    rw [accepted_append, accepted_cons, hback.accepted_of_closed hclosed, hreply]
    exact List.append_nil _
  rw [Keeps, hstate, hmode, hbase] at hkept
  rw [hmode, hbase] at hlaysOut
  rw [haccepted]
  exact ⟨table, hlaysOut, hkept⟩

end Performs

/-! ### Adding address constants -/

/-- Adds address constants one after the other, whether or not they are refused, and gives the
entries that were accepted. -/
def addEntries (draft : Draft) (constants : List AddressConstant) :
    Checked (List Entry × Draft) := do
  let (steps, filled) ← draft.perform (constants.map .addEntry)
  return (accepted steps, filled)

section Adding

variable {draft filled : Draft} {table : OpenTable} {constants : List AddressConstant}
  {steps : List DraftStep}

/-- Adding address constants is a sequence of calls. -/
lemma exists_performs_of_addEntries (hordered : draft.Ordered) {entries : List Entry}
    (h : draft.addEntries constants = .ok (entries, filled)) :
    ∃ steps, draft.Performs (constants.map .addEntry) steps filled ∧ accepted steps = entries := by
  obtain ⟨⟨steps, after⟩, hperform, h⟩ := Checked.bind_eq_ok_iff.mp h
  cases h
  exact ⟨steps, Performs.of_eq_ok hordered hperform, rfl⟩

namespace Performs

/-- No more entries are accepted than address constants are given. -/
lemma length_accepted_le (h : draft.Performs (constants.map .addEntry) steps filled) :
    (accepted steps).length ≤ constants.length := by
  have hlength := congrArg List.length h.map_call
  rw [List.length_map, List.length_map] at hlength
  exact (List.length_filterMap_le _ _).trans_eq hlength

/-- Adding address constants to an open table puts the accepted entries at the end of its list and
changes nothing else. -/
theorem eq_extend (h : draft.Performs (constants.map .addEntry) steps filled)
    (hstate : draft.state = .opened table) :
    filled = { draft with state := .opened (table.extend (accepted steps)) } := by
  induction constants generalizing draft table steps with
  | nil =>
    cases h
    rw [accepted, List.filterMap_nil, OpenTable.extend_nil, ← hstate]
  | cons constant rest ih =>
    rw [List.map_cons] at h
    cases h with
    | cons hanswer answers tail =>
      rw [accepted_cons]
      cases answers with
      | refused hrefused =>
        rw [hrefused.entry?_eq_none]
        exact ih tail hstate
      | @adds _ table' entry hopened made admitted =>
        obtain rfl := DraftState.opened.inj (hstate.symm.trans hopened)
        rw [ih tail rfl, OpenTable.extend_extend]
        rfl

/-- When as many entries are accepted as address constants are given, each of them is the entry for
its constant. -/
lemma forall₂_entryFor? (h : draft.Performs (constants.map .addEntry) steps filled)
    (hall : (accepted steps).length = constants.length) :
    List.Forall₂ (fun constant entry => draft.entryFor? constant = some entry) constants
      (accepted steps) := by
  induction constants generalizing draft steps with
  | nil =>
    cases h
    exact List.Forall₂.nil
  | cons constant rest ih =>
    rw [List.map_cons] at h
    cases h with
    | cons hanswer answers tail =>
      rw [accepted_cons] at hall ⊢
      cases answers with
      | refused hrefused =>
        have hle := tail.length_accepted_le
        rw [hrefused.entry?_eq_none, Option.toList_none, List.nil_append, List.length_cons] at hall
        omega
      | adds hopened made admitted =>
        have htail := ih tail (Nat.succ.inj hall)
        exact List.Forall₂.cons made htail

end Performs

end Adding

/-- A new draft is in order, whatever its region. -/
lemma ordered_new (mode : AddressingMode) (assembledBase : Doubleword) (size : Nat) :
    (new mode assembledBase size).Ordered := by
  intro _
  have hlt := assembledBase.toNat_lt
  rw [UInt64.le_iff_toNat_le]
  change assembledBase.toNat ≤ (assembledBase.addClamped size).toNat
  rw [Doubleword.toNat_addClamped]
  omega

/-! ### What a closed table says -/

/-- Whatever calls are made of a new draft, none is stopped, and the list of the table that one of
them closes reads back as the entries that were accepted, in order, each of which is at least two
bytes and at most a pointer wide and lies in the region. -/
theorem entries_eq_accepted (mode : AddressingMode) (assembledBase : Doubleword) (size : Nat)
    (calls : List DraftCall) :
    ∃ steps final, (new mode assembledBase size).perform calls = .ok (steps, final) ∧
      ∀ step ∈ steps, ∀ table, step.reply = .closed (.ok table) →
        table.header.entries table.entries = .ok (accepted steps) ∧
        table.entryCount = (accepted steps).length ∧
        ∀ entry ∈ accepted steps, 2 ≤ entry.length ∧ entry.length ≤ mode.maxFieldWidth ∧
          entry.displacement.toNat + entry.length.toNat ≤
            step.before.locationCounter.toNat - assembledBase.toNat := by
  have hordered := ordered_new mode assembledBase size
  obtain ⟨steps, final, hperforms⟩ := exists_performs hordered calls
  refine ⟨steps, final, hperforms.perform_eq, ?_⟩
  intro step hstep built hreply
  obtain ⟨table, hlaysOut, hholds⟩ := hperforms.builds hordered rfl hstep hreply
  rw [List.nil_append] at hholds
  refine ⟨hlaysOut.entries_eq_ok hholds, hlaysOut.entryCount_eq hholds, ?_⟩
  intro entry hentry
  have hadmitted := hholds.admitted entry hentry
  refine ⟨?_, ?_, hadmitted.stop_le⟩
  · exact UInt8.le_iff_toNat_le.mpr hadmitted.two_le
  · rw [UInt8.le_iff_toNat_le, toNat_maxFieldWidth]
    exact hadmitted.length_le

/-- Calls of which some are refused: the table is closed before it is open, opened twice, given an
address constant that ends behind the region and given another one when it is closed. -/
def unrulyCalls : List DraftCall :=
  [.closeTable .append,
    .openTable 3 none,
    .openTable 2 none,
    .addEntry ⟨⟨"WORD", 0x1000, none⟩, .explicit 4 0⟩,
    .addEntry ⟨⟨"LAST", 0x100E, none⟩, .explicit 4 0⟩,
    .addEntry ⟨⟨"HALF", 0x1008, some 2⟩, ⟨none, none, some 4⟩⟩,
    .closeTable .append,
    .addEntry ⟨⟨"WORD", 0x1000, none⟩, .explicit 4 0⟩]

/-- Of the address constants in such calls two are accepted, and the table holds these two. -/
theorem entries_eq_accepted_unruly :
    ∃ steps final, (new .bits24 0x1000 0x10).perform unrulyCalls = .ok (steps, final) ∧
      accepted steps = [⟨3, 1⟩, ⟨2, 12⟩] ∧
      ∃ step ∈ steps, ∃ table, step.reply = .closed (.ok table) ∧
        table.header.entries table.entries = .ok [⟨3, 1⟩, ⟨2, 12⟩] ∧ table.entryCount = 2 := by
  obtain ⟨steps, final, hperform, hclosed⟩ :=
    entries_eq_accepted .bits24 0x1000 0x10 unrulyCalls
  have hrun : ((new .bits24 0x1000 0x10).perform unrulyCalls).map
      (fun result => (accepted result.1, result.1[6]?.map DraftStep.reply)) =
        .ok ([⟨3, 1⟩, ⟨2, 12⟩], some (.closed (.ok
          ⟨0x1010, ⟨Header.mark, 0x1000, 0, 0x102E, 3, 0x1033, 4, .notStarted⟩,
            [0x80, 0, 1, 0x40, 0, 12], 4⟩))) := by
    decide +kernel
  rw [hperform] at hrun
  simp only [Except.map, Except.ok.injEq, Prod.mk.injEq, Option.map_eq_some_iff] at hrun
  obtain ⟨haccepted, step, hsix, hreply⟩ := hrun
  have hstep := List.mem_of_getElem? hsix
  obtain ⟨hentries, hcount, -⟩ := hclosed step hstep _ hreply
  rw [haccepted] at hentries hcount
  exact ⟨steps, final, hperform, haccepted, step, hstep, _, hreply, hentries, hcount⟩

/-- Whatever calls are made of a new draft, the header of the table that one of them closes reads
back with its addresses cut to its pointers.  It reads back as it is exactly when they fit, which
they always do in a wide header. -/
theorem header_reads_cut (mode : AddressingMode) (assembledBase : Doubleword) (size : Nat)
    (calls : List DraftCall) :
    ∃ steps final, (new mode assembledBase size).perform calls = .ok (steps, final) ∧
      ∀ step ∈ steps, ∀ table, step.reply = .closed (.ok table) →
        Header.read table.encode table.pointerSize =
          .ok (some (table.header.cutTo table.pointerSize)) ∧
        (Header.read table.encode table.pointerSize = .ok (some table.header) ↔
          table.header.FitsIn table.pointerSize) ∧
        (mode = .bits64 → table.header.FitsIn table.pointerSize) := by
  have hordered := ordered_new mode assembledBase size
  obtain ⟨steps, final, hperforms⟩ := exists_performs hordered calls
  refine ⟨steps, final, hperforms.perform_eq, ?_⟩
  intro step hstep built hreply
  obtain ⟨table, hlaysOut, -⟩ := hperforms.builds hordered rfl hstep hreply
  refine ⟨hlaysOut.read_encode, ?_, ?_⟩
  · rw [hlaysOut.read_encode, Except.ok.injEq, Option.some_inj, Header.cutTo_eq_self_iff]
  · intro hmode
    rw [hlaysOut.pointerSize, hmode]
    exact built.header.fitsIn_eight

/-- A narrow table that ends just below the limit of its pointers reads back as it is. -/
theorem header_reads_cut_below_limit :
    ∃ steps final, (new .bits31 0xFFFFFFD0 8).perform [.openTable 4 none, .closeTable .append] =
        .ok (steps, final) ∧
      ∃ step ∈ steps, ∃ table, step.reply = .closed (.ok table) ∧
        Header.read table.encode table.pointerSize = .ok (some table.header) := by
  obtain ⟨steps, final, hperform, hclosed⟩ :=
    header_reads_cut .bits31 0xFFFFFFD0 8 [.openTable 4 none, .closeTable .append]
  have hrun : ((new .bits31 0xFFFFFFD0 8).perform [.openTable 4 none, .closeTable .append]).map
      (fun result => result.1[1]?.map DraftStep.reply) =
        .ok (some (.closed (.ok ⟨0xFFFFFFD8, ⟨Header.mark, 0xFFFFFFD0, 0, 0xFFFFFFF6, 4, 0xFFFFFFF5,
          4, .notStarted⟩, [], 4⟩))) := by
    decide +kernel
  rw [hperform] at hrun
  simp only [Except.map, Except.ok.injEq, Option.map_eq_some_iff] at hrun
  obtain ⟨step, hone, hreply⟩ := hrun
  have hstep := List.mem_of_getElem? hone
  refine ⟨steps, final, hperform, step, hstep, _, hreply, ?_⟩
  exact (hclosed step hstep _ hreply).2.1.mpr (by constructor <;> decide)

/-- A narrow table that crosses the limit of its pointers is closed without complaint.  Its header
reads back with a list below the assembled base, and is not found any more. -/
theorem header_reads_cut_across_limit :
    ∃ steps final, (new .bits31 0xFFFFFFF0 8).perform [.openTable 4 none, .closeTable .append] =
        .ok (steps, final) ∧
      ∃ step ∈ steps, ∃ table, step.reply = .closed (.ok table) ∧
        table.header = ⟨Header.mark, 0xFFFFFFF0, 0, 0x100000016, 4, 0x100000015, 4, .notStarted⟩ ∧
        Header.read table.encode table.pointerSize =
          .ok (some ⟨Header.mark, 0xFFFFFFF0, 0, 0x16, 4, 0x15, 4, .notStarted⟩) ∧
        Header.read table.encode table.pointerSize ≠ .ok (some table.header) ∧
        Header.locate table.encode = .ok none := by
  refine ⟨_, _, rfl, _, List.mem_cons_of_mem _ List.mem_cons_self, _, rfl, rfl, ?_, ?_, ?_⟩
  · decide +kernel
  · decide +kernel
  · decide +kernel

end Draft

end Relocation
