import Relocation.Proofs.Narrowing

/-!
# Fields that overlap

A draft takes every address constant on its own.  It looks at the region and at the room in a packed
entry, but not at the entries it has accepted before, so a constant can be added twice and fields
can overlap in any way (`Draft.Performs.accepted_eq_filterMap`).  A relocation then adjusts a byte
once for each accepted field that contains it (`Build.adjusted_once_per_field`): a constant that was
added twice is moved twice (`Build.repeated_moves_twice`), and only when the accepted fields are
pairwise apart is no byte adjusted more than once.
-/

namespace Relocation

/-! ### Calls that do not look back -/

namespace Draft

/-- The entry that a draft accepts for an address constant, if it accepts the constant. -/
def accepts? (draft : Draft) (constant : AddressConstant) : Option Entry :=
  match draft.addEntry constant with
  | .ok (.ok entry, _) => some entry
  | _ => none

variable {draft : Draft} {table : OpenTable}

/-- What an open table holds has no part in what is accepted. -/
lemma accepts?_extend (hstate : draft.state = .opened table) (entries : List Entry) :
    ({ draft with state := .opened (table.extend entries) } : Draft).accepts? =
      draft.accepts? := by
  funext constant
  have hpack : ({ draft with state := .opened (table.extend entries) } : Draft).pack
      (table.extend entries) constant = draft.pack table constant := rfl
  unfold accepts? addEntry
  rw [hstate]
  dsimp only
  rw [hpack]
  cases draft.pack table constant with
  | error check => rfl
  | ok result =>
    cases result with
    | error e => rfl
    | ok result => simp only [EntryCodec.write_eq, Checked.ok_bind, Checked.pure_eq_ok]

/-- What is accepted is what the answer to the call says. -/
lemma accepts?_of_answer {constant : AddressConstant} {reply : DraftReply} {after : Draft}
    (h : draft.answer (.addEntry constant) = .ok (reply, after)) :
    draft.accepts? constant = reply.entry? := by
  rw [answer] at h
  obtain ⟨⟨result, after'⟩, hadd, h⟩ := Checked.bind_eq_ok_iff.mp h
  cases h
  rw [accepts?, hadd]
  cases result <;> rfl

/-- Every call of a sequence is answered as if it were the first. -/
theorem Performs.accepted_eq_filterMap {constants : List AddressConstant} {steps : List DraftStep}
    {filled : Draft} (h : draft.Performs (constants.map .addEntry) steps filled)
    (hstate : draft.state = .opened table) :
    accepted steps = constants.filterMap draft.accepts? := by
  induction constants generalizing draft table steps with
  | nil =>
    cases h
    rfl
  | cons constant rest ih =>
    rw [List.map_cons] at h
    cases h with
    | cons hanswer answers tail =>
      have hfirst := accepts?_of_answer hanswer
      rw [accepted_cons]
      cases answers with
      | refused hrefused =>
        rw [hrefused.entry?_eq_none] at hfirst ⊢
        rw [List.filterMap_cons_none hfirst]
        exact ih tail hstate
      | @adds _ table' entry hopened made admitted =>
        rw [List.filterMap_cons_some hfirst, ih tail rfl, accepts?_extend hopened]
        rfl

end Draft

/-! ### Bytes of several fields -/

/-- The address constant of the entry has the byte at offset `i`. -/
def Entry.Covers (entry : Entry) (i : Nat) : Prop :=
  entry.start ≤ i ∧ i < entry.stop

instance (entry : Entry) (i : Nat) : Decidable (entry.Covers i) :=
  inferInstanceAs (Decidable (_ ∧ _))

/-- Fields that are not empty share no byte exactly when none covers a byte of the other. -/
lemma Entry.apartFrom_iff {entry other : Entry} (h : entry.start < entry.stop)
    (hother : other.start < other.stop) :
    entry.ApartFrom other.start other.stop ↔ ∀ i, entry.Covers i → ¬ other.Covers i := by
  unfold ApartFrom Covers
  constructor
  · intro hapart i hi
    omega
  · intro hcovers
    -- the later of the two starts is a byte of both, unless they are apart
    have hmax := hcovers (max entry.start other.start)
    omega

/-- Fields that are not empty are pairwise apart exactly when no byte belongs to two of them. -/
theorem Entry.pairwise_apart_iff {entries : List Entry}
    (h : ∀ entry ∈ entries, entry.start < entry.stop) :
    (entries.Pairwise fun entry other => entry.ApartFrom other.start other.stop) ↔
      ∀ i, entries.countP (fun entry => entry.Covers i) ≤ 1 := by
  induction entries with
  | nil => simp
  | cons entry rest ih =>
    obtain ⟨hentry, hrest⟩ := List.forall_mem_cons.mp h
    rw [List.pairwise_cons, ih hrest]
    constructor
    · rintro ⟨hapart, hcount⟩ i
      by_cases hcovers : entry.Covers i
      · have hnone : rest.countP (fun other => other.Covers i) = 0 := by
          rw [List.countP_eq_zero]
          intro other hother
          have hbytes := (apartFrom_iff hentry (hrest other hother)).mp (hapart other hother)
          simpa using hbytes i hcovers
        rw [List.countP_cons, hnone]
        split <;> omega
      · rw [List.countP_cons_of_neg (by simpa using hcovers)]
        exact hcount i
    · intro hcount
      refine ⟨fun other hother => ?_, fun i => ?_⟩
      · refine (apartFrom_iff hentry (hrest other hother)).mpr fun i hcovers hcovers' => ?_
        have hone := hcount i
        have hpos : 0 < rest.countP (fun other => other.Covers i) :=
          List.countP_pos_iff.mpr ⟨other, hother, by simpa using hcovers'⟩
        rw [List.countP_cons_of_pos (by simpa using hcovers)] at hone
        omega
      · exact (List.sublist_cons_self entry rest).countP_le.trans (hcount i)

/-- How often a relocation has adjusted the byte at offset `i`. -/
def Run.timesAdjusted (run : Run) (i : Nat) : Nat :=
  run.patches.countP fun patch => patch.entry.Covers i

/-! ### Relocating a build -/

namespace Build

variable {mode : AddressingMode} {region : Region} {build : Build mode region}
  {codec : EntryCodec} {mode' : AddressingMode} {base : Doubleword} {found : Survey}

/-- A table that is found where the table of the build stands, with the header of the build, is the
table of the build. -/
lemma Holds.eq_found (h : build.Holds codec)
    (husable : found.Usable mode' ⟨base, build.image⟩ (build.tableAt base))
    (hheader : found.header = build.table.header) : found = build.found codec := by
  have hoffset : found.offset = build.offset := by
    have hsub : build.tableAt base - base = build.table.address - region.base := by
      rw [tableAt, UInt64.add_comm, UInt64.add_sub_cancel]
    exact husable.stands.offset_eq.trans (congrArg UInt64.toNat hsub)
  have hpointer : found.pointerSize = mode.pointerSize := by
    rw [← husable.toNat_registerWidth, hheader, h.table.registerWidth]
    cases mode <;> rfl
  have hcodec : found.codec = codec := by
    have hcodec := husable.codec_eq
    rw [hheader, h.codec?_eq] at hcodec
    exact (Option.some.inj hcodec).symm
  have hlistOffset : found.listOffset = build.offset + Header.size mode.pointerSize := by
    rw [husable.listOffset_eq, hheader]
    exact h.toNat_firstEntry_sub.2
  have hlistLength : found.listLength = build.accepted.length * codec.entrySize := by
    rw [husable.listLength_eq, hheader, Header.listLength, if_pos h.toNat_listEnd_sub.1]
    exact h.toNat_listEnd_sub.2
  obtain ⟨offset, pointerSize, header, codec', listOffset, listLength⟩ := found
  simp only [Build.found, Survey.mk.injEq]
  exact ⟨hoffset, hpointer, hheader, hcodec, hlistOffset, hlistLength⟩

/-- In front of the table, patching a build adjusts the accepted address constants one after the
other. -/
lemma Holds.agreesOn_adjustAll (h : build.Holds codec) {a : Adjustment} {patching : Patching}
    (husable : (build.found codec).Usable mode' ⟨base, build.image⟩ (build.tableAt base))
    (hrun : PatchRun mode' (build.found codec) a (build.found codec).entryCount 0
      ((build.found codec).mark build.image .inProgress) patching) :
    ((build.found codec).mark patching.storage .completed).AgreesOn
      (Entry.adjustAll mode' a build.accepted build.image) 0 build.offset := by
  have hinside := husable.header_inside
  have hlength := length_mark hinside .inProgress
  have hlength' : patching.storage.length = build.image.length := husable.length_patched hrun
  have hfront : build.offset ≤ (build.found codec).offset +
      Header.statusOffset (build.found codec).pointerSize := Nat.le_add_right _ _
  have hroom : build.offset ≤ build.image.length :=
    (Nat.le_add_right _ _).trans hinside
  have hpatched : patching.storage.AgreesOn
      (Entry.adjustAll mode' a build.accepted build.image) 0 build.offset := by
    rw [hrun.storage_eq_adjustAll, h.entries_patched husable hrun]
    refine Entry.agreesOn_adjustAll (agreesOn_mark hinside .inProgress (Or.inr hfront)) ?_
      (hroom.trans_eq hlength.symm) hroom
    intro entry hentry
    exact ⟨Nat.zero_le _, (h.admitted entry hentry).stop_le.trans h.agreesOn_region.1⟩
  exact (agreesOn_mark (hinside.trans_eq hlength'.symm) .completed (Or.inr hfront)).trans hpatched

/-- Relocating the image by the table of the build adjusts the accepted address constants one after
the other, so that every byte is adjusted once for each accepted field that contains it. -/
lemma Holds.exists_adjusts (h : build.Holds codec)
    (husable : (build.found codec).Usable mode' ⟨base, build.image⟩ (build.tableAt base))
    (saveArea : SaveArea) (mask : Option RegisterMask) :
    ∃ run completion,
      relocate mode' ⟨base, build.image⟩ (build.tableAt base) saveArea mask = .ok run ∧
      run.outcome = .ok completion ∧
      run.region.data.AgreesOn (Entry.adjustAll mode' (.between region.base base) build.accepted
        build.image) 0 build.offset ∧
      ∀ i, run.timesAdjusted i = build.accepted.countP fun entry => entry.Covers i := by
  obtain ⟨run, _, hrun, hcompletes⟩ :=
    h.listApart_found.exists_completes husable h.faultless_found saveArea mask
  obtain ⟨_, patching, husable', hpatch, -, hpatches, hdata, -⟩ :=
    (relocates_of_eq_ok hrun).of_outcome_ok hcompletes.outcome
  obtain rfl := husable'.unique husable
  rw [h.adjustment_found] at hpatch
  refine ⟨run, _, hrun, hcompletes.outcome, ?_, ?_⟩
  · rw [hdata]
    exact h.agreesOn_adjustAll husable hpatch
  · intro i
    rw [Run.timesAdjusted, hpatches, ← h.entries_patched husable hpatch, List.countP_map]
    rfl

/-- No accepted field is empty. -/
lemma Holds.start_lt_stop (h : build.Holds codec) :
    ∀ entry ∈ build.accepted, entry.start < entry.stop := by
  intro entry hentry
  have htwo := (h.admitted entry hentry).two_le
  exact Nat.lt_add_of_pos_right (by omega)

/-- The address constants of a build are accepted one by one, each as if it were the first.  A
relocation of the image is refused and changes nothing, or adjusts the accepted constants one after
the other, so that every byte is adjusted once for each accepted field that contains it; no byte is
adjusted more than once exactly when the accepted fields are pairwise apart.  This takes a header
that is not mistaken for another one. -/
theorem adjusted_once_per_field (build : Build mode region) (mode' : AddressingMode)
    (base : Doubleword) (saveArea : SaveArea) (mask : Option RegisterMask)
    (hheader : ∀ found, survey mode' ⟨base, build.image⟩ (build.tableAt base) = .ok (.ok found) →
      found.header = build.table.header) :
    build.accepted = build.constants.filterMap build.opened.accepts? ∧
    ∃ run, relocate mode' ⟨base, build.image⟩ (build.tableAt base) saveArea mask = .ok run ∧
      ((∃ refusal, survey mode' ⟨base, build.image⟩ (build.tableAt base) = .ok (.error refusal) ∧
          run.outcome = .error refusal ∧ run.region.data = build.image ∧
          run.saveArea = saveArea ∧ ∀ i, run.timesAdjusted i = 0) ∨
        ∃ completion, run.outcome = .ok completion ∧
          run.region.data.AgreesOn (Entry.adjustAll mode' (.between region.base base)
            build.accepted build.image) 0 build.offset ∧
          (∀ i, run.timesAdjusted i = build.accepted.countP fun entry => entry.Covers i) ∧
          ((∀ i, run.timesAdjusted i ≤ 1) ↔ build.accepted.Pairwise
            fun entry other => entry.ApartFrom other.start other.stop)) := by
  obtain ⟨codec, h⟩ := build.exists_holds
  constructor
  · obtain ⟨_, steps, -, -, hopened, -, hperforms, haccepted⟩ := build.exists_performs
    rw [← haccepted]
    exact hperforms.accepted_eq_filterMap (congrArg Draft.state hopened)
  · obtain ⟨result, hsurvey⟩ := exists_survey mode' ⟨base, build.image⟩ (build.tableAt base)
    cases result with
    | error refusal =>
      exact ⟨_, relocate_of_turnedDown hsurvey saveArea mask,
        Or.inl ⟨refusal, hsurvey, rfl, rfl, rfl, fun i => rfl⟩⟩
    | ok found =>
      have husable := survey_eq_ok_iff.mp hsurvey
      obtain rfl := h.eq_found husable (hheader found hsurvey)
      obtain ⟨run, completion, hrun, houtcome, hdata, hcount⟩ :=
        h.exists_adjusts husable saveArea mask
      refine ⟨run, hrun, Or.inr ⟨completion, houtcome, hdata, hcount, ?_⟩⟩
      simp only [hcount]
      exact (Entry.pairwise_apart_iff h.start_lt_stop).symm

/-- A build in which the same address constant was added twice. -/
def repeated : Build .bits31 ⟨0x1000, [0x00, 0x00, 0x10, 0x04, 0x00, 0x00, 0x00, 0x00]⟩ where
  entrySize := 2
  transfer := none
  constants := [⟨⟨"WORD", 0x1000, none⟩, .explicit 4 0⟩, ⟨⟨"WORD", 0x1000, none⟩, .explicit 4 0⟩]
  placement := .append
  opened := ⟨.bits31, 0x1000, 0x1008, .opened ⟨halfwordCodec, 0, []⟩⟩
  accepted := [⟨4, 0⟩, ⟨4, 0⟩]
  filled := ⟨.bits31, 0x1000, 0x1008, .opened ⟨halfwordCodec, 0, [0xC0, 0x00, 0xC0, 0x00]⟩⟩
  table := ⟨0x1008, ⟨Header.mark, 0x1000, 0, 0x1026, 2, 0x1029, 4, .notStarted⟩,
    [0xC0, 0x00, 0xC0, 0x00], 4⟩
  closed := ⟨.bits31, 0x1000, 0x102A, .closed⟩
  image := [0x00, 0x00, 0x10, 0x04, 0x00, 0x00, 0x00, 0x00,
    0xD9, 0xC5, 0xD3, 0xD6, 0xC3, 0xE3, 0xC2, 0xD3, 0x00, 0x00, 0x10, 0x00, 0x00, 0x00, 0x00, 0x00,
    0x00, 0x00, 0x10, 0x26, 0x00, 0x00, 0x00, 0x02, 0x00, 0x00, 0x10, 0x29, 0x04, 0x00,
    0xC0, 0x00, 0xC0, 0x00]
  opened_eq := by decide +kernel
  filled_eq := by decide +kernel
  table_eq := by decide +kernel
  image_eq := by decide +kernel

/-- The constant that was added twice is moved twice: loaded at `0x5000`, the address `0x1004` of
the region becomes `0x9004`, which is not in it. -/
theorem repeated_moves_twice :
    ¬ (repeated.accepted.Pairwise fun entry other => entry.ApartFrom other.start other.stop) ∧
    ∃ run, relocate .bits31 ⟨0x5000, repeated.image⟩ (repeated.tableAt 0x5000) .clear none =
        .ok run ∧ run.outcome = .ok ⟨none, .up 0x4000, 2, 0⟩ ∧
      (∀ i, i < 4 → run.timesAdjusted i = 2) ∧
      run.region.data.part 0 4 = [0x00, 0x00, 0x90, 0x04] := by
  obtain ⟨run, hrun, -⟩ := exists_relocates .bits31 ⟨0x5000, repeated.image⟩
    (repeated.tableAt 0x5000) .clear none
  have hfacts : (relocate .bits31 ⟨0x5000, repeated.image⟩ (repeated.tableAt 0x5000) .clear
      none).map (fun run => (run.outcome, (List.range 4).map run.timesAdjusted,
        run.region.data.part 0 4)) =
      .ok (.ok ⟨none, .up 0x4000, 2, 0⟩, [2, 2, 2, 2], [0x00, 0x00, 0x90, 0x04]) := by
    decide +kernel
  rw [hrun] at hfacts
  simp only [Except.map, Except.ok.injEq, Prod.mk.injEq] at hfacts
  obtain ⟨houtcome, htimes, hbytes⟩ := hfacts
  refine ⟨by decide, run, hrun, houtcome, ?_, hbytes⟩
  intro i hi
  have hmem : run.timesAdjusted i ∈ [2, 2, 2, 2] := by
    rw [← htimes]
    exact List.mem_map_of_mem (List.mem_range.mpr hi)
  simpa using hmem

/-- The fields of the narrowed build are apart, and its relocation adjusts each of their bytes once;
the high-order byte of the first constant is not in its field. -/
theorem adjusted_once_per_field_narrowed :
    (∀ found, survey .bits31 ⟨0x5000, narrowed.image⟩ (narrowed.tableAt 0x5000) =
      .ok (.ok found) → found.header = narrowed.table.header) ∧
    ∃ run completion, relocate .bits31 ⟨0x5000, narrowed.image⟩ (narrowed.tableAt 0x5000) .clear
        none = .ok run ∧ run.outcome = .ok completion ∧
      (∀ i, run.timesAdjusted i ≤ 1) ∧ run.timesAdjusted 0 = 0 ∧ run.timesAdjusted 1 = 1 := by
  have hsurvey : survey .bits31 ⟨0x5000, narrowed.image⟩ (narrowed.tableAt 0x5000) = .ok (.ok
      { offset := 8, pointerSize := 4, codec := ⟨2, 2, by decide, by decide⟩, listOffset := 38
        listLength := 4, header := narrowed.table.header }) := by
    decide +kernel
  have hheader : ∀ found, survey .bits31 ⟨0x5000, narrowed.image⟩ (narrowed.tableAt 0x5000) =
      .ok (.ok found) → found.header = narrowed.table.header := by
    intro found hfound
    rw [hsurvey] at hfound
    cases hfound
    rfl
  obtain ⟨-, run, hrun, hways⟩ :=
    adjusted_once_per_field narrowed .bits31 0x5000 .clear none hheader
  rcases hways with ⟨refusal, hrefused, -⟩ | ⟨completion, houtcome, -, hcount, hiff⟩
  · rw [hsurvey] at hrefused
    cases hrefused
  · refine ⟨hheader, run, completion, hrun, houtcome, hiff.mpr (by decide), ?_, ?_⟩
    · rw [hcount]
      decide
    · rw [hcount]
      decide

end Build

end Relocation
