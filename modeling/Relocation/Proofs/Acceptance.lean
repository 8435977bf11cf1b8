import Relocation.Proofs.Replay

/-!
# Which address constants are accepted

An open draft takes an address constant through a row of tests on doublewords, several of them sums
that must not overflow.  This file says what the tests amount to over the natural numbers, where no
sum overflows: the field has to have a width that the mode supports, all of it has to lie in the
region, and what is left of it in a table entry has to start within reach of the entry's
displacement.

Which field is asked for is said by `AddressConstant.AsksFor`: what the request gives comes before
what the catalogue knows, for the width and for the displacement apart.  `Draft.Describes` states
the conditions on the field and `Draft.entryFor?_eq_some_iff_describes` says that they are what it
takes to make an entry.  Whether the entry can be packed then depends on its displacement alone,
since every codec of a mode has room for the widths of that mode (`Draft.Describes.fits_iff`).  The
main result, `Draft.accepts_exactly_describable`, is about a draft that was reached by any calls.
-/

namespace Relocation

/-- The bytes at the start of a field of `width` bytes that a table entry leaves out: the high-order
byte of a fullword when addresses have 24 bits. -/
def AddressingMode.omittedBytes (mode : AddressingMode) (width : UInt8) : Nat :=
  if mode = .bits24 ∧ width = 4 then 1 else 0

/-- At most one byte is left out. -/
lemma AddressingMode.omittedBytes_le_one (mode : AddressingMode) (width : UInt8) :
    mode.omittedBytes width ≤ 1 := by
  unfold omittedBytes
  split <;> omega

/-- A sum is refused when it needs more than 64 bits. -/
lemma Doubleword.isNone_add?_iff {a b : Doubleword} :
    (a.add? b).isNone = true ↔ 2 ^ 64 ≤ a.toNat + b.toNat := by
  simp [Doubleword.add?, UInt64.size]

/-! ### The field asked for -/

/-- The value is the first of the options that is present. -/
inductive FirstPresent {α : Type} : List (Option α) → α → Prop
  | here {value : α} {rest : List (Option α)} : FirstPresent (some value :: rest) value
  | later {value : α} {rest : List (Option α)} (h : FirstPresent rest value) :
      FirstPresent (none :: rest) value

/-- The first present option is found by looking through them in order. -/
lemma firstPresent_iff {α : Type} {options : List (Option α)} {value : α} :
    FirstPresent options value ↔ options.findSome? id = some value := by
  induction options with
  | nil =>
    constructor
    · intro h
      cases h
    · intro h
      cases h
  | cons first rest ih =>
    cases first with
    | none =>
      rw [List.findSome?_cons_of_isNone rfl, ← ih]
      constructor
      · rintro (- | h)
        exact h
      · exact FirstPresent.later
    | some present =>
      rw [List.findSome?_cons_of_isSome rfl, id_eq, Option.some_inj]
      constructor
      · rintro ⟨⟩
        rfl
      · rintro rfl
        exact FirstPresent.here

instance {α : Type} [DecidableEq α] (options : List (Option α)) (value : α) :
    Decidable (FirstPresent options value) :=
  decidable_of_iff _ firstPresent_iff.symm

namespace FieldRequest

variable {request : FieldRequest} {label : Label}

/-- The width asked for is the first present of the given one, that of the format and the length
attribute of the label. -/
lemma width?_eq_some_iff {width : UInt8} :
    request.width? label = some width ↔
      FirstPresent [request.length, request.format.map (·.field.width), label.length] width := by
  rw [firstPresent_iff, width?]
  cases request.length with
  | some length => rfl
  | none =>
    cases request.format with
    | some format => rfl
    | none => cases label.length <;> rfl

/-- The displacement asked for is the first present of the given one, that of the format and
zero. -/
lemma offset_eq_iff {displacement : Doubleword} :
    request.offset = displacement ↔
      FirstPresent [request.displacement, request.format.map (·.field.displacement), some 0]
        displacement := by
  rw [firstPresent_iff, offset, ← Option.some_inj]
  cases request.displacement with
  | some displacement => rfl
  | none => cases request.format <;> rfl

end FieldRequest

/-- The address constant asks for the field.  For its width and for its displacement, what the
request gives comes before what the catalogue knows of the format; without either, the width is the
length attribute of the label and the displacement is zero. -/
structure AddressConstant.AsksFor (constant : AddressConstant) (field : Field) : Prop where
  width : FirstPresent [constant.request.length, constant.request.format.map (·.field.width),
    constant.label.length] field.width
  displacement : FirstPresent [constant.request.displacement,
    constant.request.format.map (·.field.displacement), some 0] field.displacement

/-- An address constant asks for one field at most. -/
lemma AddressConstant.AsksFor.unique {constant : AddressConstant} {field other : Field}
    (h : constant.AsksFor field) (h' : constant.AsksFor other) : field = other := by
  have hwidth := (firstPresent_iff.mp h.width).symm.trans (firstPresent_iff.mp h'.width)
  have hdisplacement :=
    (firstPresent_iff.mp h.displacement).symm.trans (firstPresent_iff.mp h'.displacement)
  exact congrArg₂ Field.mk (Option.some.inj hdisplacement) (Option.some.inj hwidth)

namespace Draft

/-! ### What can be described -/

/-- The address constant asks for the field, the mode supports its width, and all of it lies in the
region. -/
structure Describes (draft : Draft) (constant : AddressConstant) (field : Field) : Prop where
  asked : constant.AsksFor field
  two_le : 2 ≤ field.width.toNat
  le_max : field.width.toNat ≤ draft.mode.maxFieldWidth.toNat
  base_le : draft.assembledBase.toNat ≤ constant.label.address.toNat
  stop_le : constant.label.address.toNat - draft.assembledBase.toNat +
      field.displacement.toNat + field.width.toNat ≤
    draft.locationCounter.toNat - draft.assembledBase.toNat

/-- Where the entry for a field starts, counted from the start of the region. -/
def entryStart (draft : Draft) (constant : AddressConstant) (field : Field) : Nat :=
  constant.label.address.toNat - draft.assembledBase.toNat + field.displacement.toNat +
    draft.mode.omittedBytes field.width

/-- The entry describes the field, without the bytes that are left out. -/
def IsEntryFor (draft : Draft) (constant : AddressConstant) (field : Field) (entry : Entry) :
    Prop :=
  entry.displacement.toNat = draft.entryStart constant field ∧
    entry.length.toNat = field.width.toNat - draft.mode.omittedBytes field.width

/-! ### The tests one by one -/

/-- A field is asked for when its width is known and at least two, and it ends below the top of
storage even before it is counted from its label. -/
lemma requestedField_eq_ok_iff {constant : AddressConstant} {field : Field} :
    requestedField constant = .ok field ↔
      constant.AsksFor field ∧ 2 ≤ field.width.toNat ∧
        field.displacement.toNat + field.width.toNat < 2 ^ 64 := by
  unfold requestedField AddressConstant.field
  constructor
  · intro h
    cases hwidth : constant.request.width? constant.label with
    | none => simp [hwidth] at h
    | some width =>
      simp only [hwidth] at h
      by_cases hsmall : width < 2
      · simp [hsmall] at h
      rw [if_neg hsmall] at h
      by_cases hnone : (Doubleword.add? constant.request.offset width.toUInt64).isNone = true
      · simp [hnone] at h
      rw [if_neg hnone] at h
      cases h
      rw [Doubleword.isNone_add?_iff, not_le, UInt8.toNat_toUInt64] at hnone
      exact ⟨⟨FieldRequest.width?_eq_some_iff.mp hwidth, FieldRequest.offset_eq_iff.mp rfl⟩,
        not_lt.mp hsmall, hnone⟩
  · rintro ⟨⟨hwidth, hdisplacement⟩, htwo, hroom⟩
    have hsmall : ¬ field.width < 2 := not_lt.mpr htwo
    have hsum : ¬ (Doubleword.add? field.displacement field.width.toUInt64).isNone = true := by
      rw [Doubleword.isNone_add?_iff, not_le, UInt8.toNat_toUInt64]
      exact hroom
    simp only [FieldRequest.width?_eq_some_iff.mpr hwidth,
      FieldRequest.offset_eq_iff.mpr hdisplacement]
    rw [if_neg hsmall, if_neg hsum]

/-- A field is described when the mode supports its width, and then without the bytes that are left
out. -/
lemma fit?_eq_some_iff {mode : AddressingMode} {field fitted : Field} :
    mode.fit? field = some fitted ↔
      field.width.toNat ≤ mode.maxFieldWidth.toNat ∧
        fitted.width.toNat = field.width.toNat - mode.omittedBytes field.width ∧
        fitted.displacement.toNat = field.displacement.toNat + mode.omittedBytes field.width := by
  have hnarrows : mode.narrows field = true ↔ mode = .bits24 ∧ field.width = 4 := by
    simp [AddressingMode.narrows]
  unfold AddressingMode.fit? AddressingMode.omittedBytes
  by_cases h : mode = .bits24 ∧ field.width = 4
  · rw [if_pos (hnarrows.mpr h), if_pos h, Option.map_eq_some_iff]
    obtain ⟨rfl, hfour⟩ := h
    rw [hfour]
    constructor
    · rintro ⟨next, hnext, rfl⟩
      exact ⟨le_rfl, rfl, Doubleword.add?_eq_some_iff.mp hnext⟩
    · rintro ⟨-, hthree, hnext⟩
      have hwidth : fitted.width = 3 := UInt8.toNat_inj.mp hthree
      refine ⟨fitted.displacement, Doubleword.add?_eq_some_iff.mpr hnext, ?_⟩
      rw [← hwidth]
  · rw [if_neg (fun hnarrow => h (hnarrows.mp hnarrow)), if_neg h]
    by_cases hwide : mode.maxFieldWidth < field.width
    · rw [if_pos hwide]
      simp [Nat.not_le.mpr (UInt8.lt_iff_toNat_lt.mp hwide)]
    · rw [if_neg hwide, Option.some_inj]
      constructor
      · rintro rfl
        exact ⟨not_lt.mp hwide, rfl, rfl⟩
      · rintro ⟨-, hwidth, hdisplacement⟩
        exact congrArg₂ Field.mk (UInt64.toNat_inj.mp hdisplacement).symm
          (UInt8.toNat_inj.mp hwidth).symm

/-- An entry is made for a field of a label when the label is not in front of the region and the
field does not end behind it. -/
lemma entryWithin?_eq_some_iff {base regionSize : Doubleword} {label : Label} {field : Field}
    {entry : Entry} :
    entryWithin? base regionSize label field = some entry ↔
      base.toNat ≤ label.address.toNat ∧ entry.length = field.width ∧
        entry.displacement.toNat =
          label.address.toNat - base.toNat + field.displacement.toNat ∧
        entry.stop ≤ regionSize.toNat := by
  constructor
  · intro h
    obtain ⟨hlength, hstart, hstop⟩ := entryWithin?_eq_some h
    obtain ⟨offset, hoffset, -⟩ := Option.bind_eq_some_iff.mp h
    obtain ⟨hbase, -⟩ := Doubleword.sub?_eq_some_iff.mp hoffset
    rw [UInt64.toNat_sub_of_le _ _ hbase] at hstart
    exact ⟨hbase, hlength, hstart, hstop⟩
  · rintro ⟨hbase, hlength, hstart, hstop⟩
    have hle : base ≤ label.address := hbase
    have hdisplacement : Doubleword.add? (label.address - base) field.displacement =
        some entry.displacement := by
      rw [Doubleword.add?_eq_some_iff, UInt64.toNat_sub_of_le _ _ hle]
      exact hstart
    have hroom : entry.stop < UInt64.size := hstop.trans_lt regionSize.toNat_lt
    have hsum : Doubleword.add? entry.displacement entry.length.toUInt64 =
        some (UInt64.ofNat entry.stop) := by
      rw [Doubleword.add?_eq_some_iff, UInt64.toNat_ofNat_of_lt' hroom, UInt8.toNat_toUInt64]
      rfl
    have hinside : UInt64.ofNat entry.stop ≤ regionSize := by
      rw [UInt64.le_iff_toNat_le, UInt64.toNat_ofNat_of_lt' hroom]
      exact hstop
    simp only [entryWithin?, Doubleword.sub?, if_pos hle, Option.bind_eq_bind, Option.bind_some,
      hdisplacement, hsum, if_pos hinside, ← hlength]

/-! ### Entries and their displacements -/

variable {draft : Draft} {table : OpenTable} {constant : AddressConstant}

/-- A draft makes an entry of an address constant when it can describe the field. -/
theorem entryFor?_eq_some_iff_describes (hle : draft.assembledBase ≤ draft.locationCounter)
    {entry : Entry} :
    draft.entryFor? constant = some entry ↔
      ∃ field, draft.Describes constant field ∧ draft.IsEntryFor constant field entry := by
  have hsize : (draft.locationCounter - draft.assembledBase).toNat =
      draft.locationCounter.toNat - draft.assembledBase.toNat := UInt64.toNat_sub_of_le _ _ hle
  rw [entryFor?_eq_some_iff]
  constructor
  · rintro ⟨requested, fitted, hrequested, hfitted, hentry⟩
    obtain ⟨hasked, htwo, -⟩ := requestedField_eq_ok_iff.mp hrequested
    obtain ⟨hmax, hlength, hdisplacement⟩ := fit?_eq_some_iff.mp hfitted
    obtain ⟨hbase, hlength', hstart, hstop⟩ := entryWithin?_eq_some_iff.mp hentry
    have homitted := draft.mode.omittedBytes_le_one requested.width
    rw [hsize, Entry.stop] at hstop
    rw [← hlength'] at hlength
    rw [hdisplacement] at hstart
    refine ⟨requested, ⟨hasked, htwo, hmax, hbase, ?_⟩, ?_, hlength⟩
    · omega
    · rw [hstart, entryStart, Nat.add_assoc]
  · rintro ⟨field, ⟨hasked, htwo, hmax, hbase, hstop⟩, hstart, hlength⟩
    have homitted := draft.mode.omittedBytes_le_one field.width
    have hcounter := draft.locationCounter.toNat_lt
    have hroom : field.displacement.toNat + field.width.toNat < 2 ^ 64 := by omega
    rw [entryStart] at hstart
    have hsum : (UInt64.ofNat (field.displacement.toNat +
        draft.mode.omittedBytes field.width)).toNat =
          field.displacement.toNat + draft.mode.omittedBytes field.width :=
      UInt64.toNat_ofNat_of_lt' (by simp only [UInt64.size]; omega)
    refine ⟨field, ⟨UInt64.ofNat (field.displacement.toNat +
      draft.mode.omittedBytes field.width), entry.length⟩, ?_, ?_, ?_⟩
    · exact requestedField_eq_ok_iff.mpr ⟨hasked, htwo, hroom⟩
    · exact fit?_eq_some_iff.mpr ⟨hmax, hlength, hsum⟩
    · refine entryWithin?_eq_some_iff.mpr ⟨hbase, rfl, ?_, ?_⟩
      · rw [hsum, hstart, Nat.add_assoc]
      · rw [hsize, Entry.stop]
        omega

/-- There is an entry for every field that can be described. -/
lemma Describes.exists_isEntryFor {field : Field} (h : draft.Describes constant field) :
    ∃ entry, draft.IsEntryFor constant field entry := by
  have homitted := draft.mode.omittedBytes_le_one field.width
  have hcounter := draft.locationCounter.toNat_lt
  have hwidth := field.width.toNat_lt
  have htwo := h.two_le
  have hstop := h.stop_le
  have hroom : draft.entryStart constant field < UInt64.size := by
    simp only [entryStart, UInt64.size]
    omega
  have hlength : field.width.toNat - draft.mode.omittedBytes field.width < UInt8.size := by
    simp only [UInt8.size]
    omega
  exact ⟨⟨UInt8.ofNat _, UInt64.ofNat _⟩, UInt64.toNat_ofNat_of_lt' hroom,
    UInt8.toNat_ofNat_of_lt' hlength⟩

/-- The entry for a field that can be described has room in a packed entry when its displacement
has: a codec of the mode holds every width that the mode supports. -/
lemma Describes.fits_iff {field : Field} {entry : Entry} {codec : EntryCodec}
    (h : draft.Describes constant field) (hentry : draft.IsEntryFor constant field entry)
    (hbits : codec.lengthBits = draft.mode.lengthBits) :
    codec.Fits entry ↔ draft.entryStart constant field ≤ codec.maxDisplacement.toNat := by
  obtain ⟨hstart, hlength⟩ := hentry
  have homitted := draft.mode.omittedBytes_le_one field.width
  have htwo := h.two_le
  have hmax := h.le_max
  have hwidths : 2 ^ codec.lengthBits = draft.mode.maxFieldWidth.toNat := by
    rw [hbits]
    cases draft.mode <;> rfl
  have hpos : 0 < 2 ^ codec.displacementBits := Nat.two_pow_pos _
  rw [EntryCodec.Fits, codec.toNat_maxDisplacement, hwidths, hstart]
  omega

/-! ### The answer to a call -/

/-- How an open draft answers an address constant, and the draft after it. -/
inductive Judges (draft : Draft) (table : OpenTable) (constant : AddressConstant) :
    Except BuildError Entry → Draft → Prop
  /-- The entry for its field goes to the end of the list. -/
  | accepted {field : Field} {entry : Entry} (describes : draft.Describes constant field)
      (isEntry : draft.IsEntryFor constant field entry)
      (reached : draft.entryStart constant field ≤ table.codec.maxDisplacement.toNat) :
      Judges draft table constant (.ok entry)
        { draft with state := .opened (table.extend [entry]) }
  /-- The entry starts too far from the start of the region. -/
  | tooFar {field : Field} {entry : Entry} (describes : draft.Describes constant field)
      (isEntry : draft.IsEntryFor constant field entry)
      (beyond : table.codec.maxDisplacement.toNat < draft.entryStart constant field) :
      Judges draft table constant (.error (.displacementTooLarge constant.label.name
        entry.displacement table.codec.maxDisplacement)) draft
  /-- The field cannot be described, which is what the answer says. -/
  | undescribed {e : BuildError} (hundescribed : ∀ field, ¬ draft.Describes constant field)
      (hother : ∀ name displacement max, e ≠ .displacementTooLarge name displacement max) :
      Judges draft table constant (.error e) draft

/-- Every address constant is answered in one of the ways listed. -/
theorem exists_judges (hstate : draft.state = .opened table)
    (hle : draft.assembledBase ≤ draft.locationCounter)
    (hbits : table.codec.lengthBits = draft.mode.lengthBits) (constant : AddressConstant) :
    ∃ answer after, draft.addEntry constant = .ok (answer, after) ∧
      draft.Judges table constant answer after := by
  rcases addEntry_cases hle hstate constant with
    ⟨entry, packed, hentry, hpacked, hadd⟩ | ⟨entry, hentry, hpacked, hadd⟩ |
      ⟨e, hnone, hother, hadd⟩
  · obtain ⟨field, hdescribes, hisEntry⟩ := (entryFor?_eq_some_iff_describes hle).mp hentry
    have hfits := (EntryCodec.encode?_eq_some_iff.mp hpacked).1
    have hreached := (hdescribes.fits_iff hisEntry hbits).mp hfits
    exact ⟨_, _, hadd, Judges.accepted hdescribes hisEntry hreached⟩
  · obtain ⟨field, hdescribes, hisEntry⟩ := (entryFor?_eq_some_iff_describes hle).mp hentry
    have hbeyond : ¬ draft.entryStart constant field ≤ table.codec.maxDisplacement.toNat := by
      intro hreached
      have hfits := (hdescribes.fits_iff hisEntry hbits).mpr hreached
      rw [EntryCodec.encode?_eq_some_iff.mpr ⟨hfits, EntryCodec.toNat_pack hfits⟩] at hpacked
      cases hpacked
    exact ⟨_, _, hadd, Judges.tooFar hdescribes hisEntry (Nat.lt_of_not_le hbeyond)⟩
  · have hundescribed : ∀ field, ¬ draft.Describes constant field := by
      intro field hdescribes
      obtain ⟨entry, hisEntry⟩ := hdescribes.exists_isEntryFor
      rw [(entryFor?_eq_some_iff_describes hle).mpr ⟨field, hdescribes, hisEntry⟩] at hnone
      cases hnone
    exact ⟨_, _, hadd, Judges.undescribed hundescribed hother⟩

/-- Whatever calls have been made of a new draft, while its table is open an address constant is
accepted exactly when the field it asks for can be described and its entry starts within reach of a
packed displacement.  The entry is then that of the field and goes to the end of the list; otherwise
the draft stays as it was.  The displacement is given as the reason of a refusal exactly when it is
all that is wrong. -/
theorem accepts_exactly_describable (mode : AddressingMode) (assembledBase : Doubleword)
    (size : Nat) (calls : List DraftCall) {steps : List DraftStep} {draft : Draft}
    {table : OpenTable}
    (hperform : (new mode assembledBase size).perform calls = .ok (steps, draft))
    (hstate : draft.state = .opened table) (constant : AddressConstant) :
    ∃ answer after, draft.addEntry constant = .ok (answer, after) ∧
      ((∃ entry, answer = .ok entry) ↔
        ∃ field, draft.Describes constant field ∧
          draft.entryStart constant field ≤ table.codec.maxDisplacement.toNat) ∧
      (∀ entry, answer = .ok entry →
        after = { draft with state := .opened (table.extend [entry]) } ∧
        ∃ field, draft.Describes constant field ∧ draft.IsEntryFor constant field entry) ∧
      (∀ e, answer = .error e → after = draft) ∧
      ∀ name displacement max,
        answer = .error (.displacementTooLarge name displacement max) ↔
          name = constant.label.name ∧ max = table.codec.maxDisplacement ∧
          ∃ field, draft.Describes constant field ∧
            displacement.toNat = draft.entryStart constant field ∧
            max.toNat < draft.entryStart constant field := by
  have hordered := ordered_new mode assembledBase size
  have hnew : (new mode assembledBase size).Keeps [] := rfl
  obtain ⟨hfinal, hkeeps⟩ := (Performs.of_eq_ok hordered hperform).keeps hordered hnew
  have hle : draft.assembledBase ≤ draft.locationCounter := hfinal (by simp [hstate])
  have hbits : table.codec.lengthBits = draft.mode.lengthBits := by
    rw [Keeps, hstate] at hkeeps
    exact hkeeps.lengthBits
  obtain ⟨answer, after, hadd, hjudges⟩ := exists_judges hstate hle hbits constant
  refine ⟨answer, after, hadd, ?_⟩
  cases hjudges with
  | @accepted field entry describes isEntry reached =>
    refine ⟨⟨fun _ => ⟨field, describes, reached⟩, fun _ => ⟨_, rfl⟩⟩, ?_, by simp, ?_⟩
    · rintro _ ⟨⟩
      exact ⟨rfl, field, describes, isEntry⟩
    · intro name displacement max
      simp only [reduceCtorEq, false_iff]
      rintro ⟨-, rfl, field', describes', -, hbeyond⟩
      obtain rfl := describes'.asked.unique describes.asked
      omega
  | @tooFar field entry describes isEntry beyond =>
    refine ⟨?_, by simp, fun _ _ => rfl, ?_⟩
    · simp only [reduceCtorEq, exists_false, false_iff]
      rintro ⟨field', describes', hreached⟩
      obtain rfl := describes'.asked.unique describes.asked
      omega
    · intro name displacement max
      rw [Except.error.injEq, BuildError.displacementTooLarge.injEq]
      constructor
      · rintro ⟨rfl, rfl, rfl⟩
        exact ⟨rfl, rfl, field, describes, isEntry.1, beyond⟩
      · rintro ⟨rfl, rfl, field', describes', hstart, -⟩
        obtain rfl := describes'.asked.unique describes.asked
        exact ⟨rfl, UInt64.toNat_inj.mp (isEntry.1.trans hstart.symm), rfl⟩
  | undescribed hundescribed hother =>
    refine ⟨by simp [hundescribed], by simp, fun _ _ => rfl, ?_⟩
    intro name displacement max
    simp [hundescribed, hother]

/-- With 24-bit addresses and entries of two bytes, the fullword at displacement `0x3FFE` is the
last one within reach, because its entry starts one byte later.  The next one is refused for that
byte, though it lies in the region.  Of a channel command word whose width is given, the catalogue
tells the displacement only.  A field whose end would wrap around into the region is refused. -/
theorem accepts_exactly_describable_at_limit :
    ∃ steps draft table,
      (new .bits24 0x1000 0x4003).perform [.openTable 2 none] = .ok (steps, draft) ∧
      draft.state = .opened table ∧
      (∃ entry after, draft.addEntry ⟨⟨"LAST", 0x4FFE, none⟩, .explicit 4 0⟩ =
          .ok (.ok entry, after) ∧
        entry.displacement.toNat = 0x3FFF ∧ entry.length.toNat = 3) ∧
      draft.addEntry ⟨⟨"NEXT", 0x4FFF, none⟩, .explicit 4 0⟩ =
        .ok (.error (.displacementTooLarge "NEXT" 0x4000 0x3FFF), draft) ∧
      (∃ entry after, draft.addEntry ⟨⟨"CCW", 0x1008, some 8⟩, ⟨some .ccw0, some 2, none⟩⟩ =
          .ok (.ok entry, after) ∧
        entry.displacement.toNat = 9 ∧ entry.length.toNat = 2) ∧
      ∀ entry after, draft.addEntry ⟨⟨"WRAP", 0x1000, none⟩, .explicit 4 0xFFFFFFFFFFFFFFFE⟩ ≠
        .ok (.ok entry, after) := by
  have hperform : (new .bits24 0x1000 0x4003).perform [.openTable 2 none] = .ok
      ([⟨new .bits24 0x1000 0x4003, .openTable 2 none, .opened (.ok ()),
        ⟨.bits24, 0x1000, 0x5003, .opened ⟨⟨2, 2, by decide, by decide⟩, 0, []⟩⟩⟩],
        ⟨.bits24, 0x1000, 0x5003, .opened ⟨⟨2, 2, by decide, by decide⟩, 0, []⟩⟩) := by
    decide +kernel
  have hexact := accepts_exactly_describable .bits24 0x1000 0x4003 [.openTable 2 none] hperform rfl
  refine ⟨_, _, _, hperform, rfl, ?_, ?_, ?_, ?_⟩
  · obtain ⟨answer, after, hadd, haccepts, hentry, -⟩ :=
      hexact ⟨⟨"LAST", 0x4FFE, none⟩, .explicit 4 0⟩
    have hdescribes : Describes ⟨.bits24, 0x1000, 0x5003,
        .opened ⟨⟨2, 2, by decide, by decide⟩, 0, []⟩⟩
        ⟨⟨"LAST", 0x4FFE, none⟩, .explicit 4 0⟩ ⟨0, 4⟩ :=
      ⟨⟨by decide, by decide⟩, by decide, by decide, by decide, by decide⟩
    obtain ⟨entry, rfl⟩ := haccepts.mpr ⟨_, hdescribes, by decide⟩
    obtain ⟨-, field, hfield, hstart, hlength⟩ := hentry entry rfl
    obtain rfl := hfield.asked.unique hdescribes.asked
    exact ⟨entry, after, hadd, hstart, hlength⟩
  · obtain ⟨answer, after, hadd, -, -, hrefused, htooLarge⟩ :=
      hexact ⟨⟨"NEXT", 0x4FFF, none⟩, .explicit 4 0⟩
    have hanswer := (htooLarge "NEXT" 0x4000 0x3FFF).mpr ⟨rfl, by decide, ⟨0, 4⟩,
      ⟨⟨by decide, by decide⟩, by decide, by decide, by decide, by decide⟩, by decide, by decide⟩
    rw [hadd, hanswer, hrefused _ hanswer]
  · obtain ⟨answer, after, hadd, haccepts, hentry, -⟩ :=
      hexact ⟨⟨"CCW", 0x1008, some 8⟩, ⟨some .ccw0, some 2, none⟩⟩
    have hdescribes : Describes ⟨.bits24, 0x1000, 0x5003,
        .opened ⟨⟨2, 2, by decide, by decide⟩, 0, []⟩⟩
        ⟨⟨"CCW", 0x1008, some 8⟩, ⟨some .ccw0, some 2, none⟩⟩ ⟨1, 2⟩ :=
      ⟨⟨by decide, by decide⟩, by decide, by decide, by decide, by decide⟩
    obtain ⟨entry, rfl⟩ := haccepts.mpr ⟨_, hdescribes, by decide⟩
    obtain ⟨-, field, hfield, hstart, hlength⟩ := hentry entry rfl
    obtain rfl := hfield.asked.unique hdescribes.asked
    exact ⟨entry, after, hadd, hstart, hlength⟩
  · intro entry after hadd
    obtain ⟨answer, after', hadd', haccepts, -⟩ :=
      hexact ⟨⟨"WRAP", 0x1000, none⟩, .explicit 4 0xFFFFFFFFFFFFFFFE⟩
    obtain ⟨rfl, -⟩ := Prod.mk.inj (Except.ok.inj (hadd'.symm.trans hadd))
    obtain ⟨field, hfield, -⟩ := haccepts.mp ⟨entry, rfl⟩
    have hasked : AddressConstant.AsksFor
        ⟨⟨"WRAP", 0x1000, none⟩, .explicit 4 0xFFFFFFFFFFFFFFFE⟩ ⟨0xFFFFFFFFFFFFFFFE, 4⟩ :=
      ⟨by decide, by decide⟩
    obtain rfl := hfield.asked.unique hasked
    exact absurd hfield.stop_le (by decide)

end Draft

end Relocation
