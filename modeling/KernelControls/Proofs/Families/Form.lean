import KernelControls.Family.Builtin
import KernelControls.Family.Form
import KernelControls.Proofs.Values.Numerals

/-!
# What families are read from

A family is written in one form and read from many: its fields may stand in any order and among
others that nobody knows, and a mode, a codec or a least value may be left out where it is the
usual one.  All else has to be there and of its type.

## Strategy

`Form.part?` is what a form has for a field, as a record or as a list.  With it the two readers are
described exactly (`Control.ofForm?_eq_some_iff`, `Family.ofForm?_eq_some_iff`), so a form is read
by giving its parts, and it is not read if one part cannot be.
-/

namespace KernelControls

theorem Json.text?_eq_some_iff {form : Json} {text : String} :
    form.text? = some text ↔ form = .text text := by
  cases form <;> simp [text?]

theorem Json.list?_eq_some_iff {form : Json} {items : List Json} :
    form.list? = some items ↔ form = .list items := by
  cases form <;> simp [list?]

/-! ## Parts -/

namespace Form

variable {dialect : Dialect} {names : List String} {form : Json}

/-- The part of a form for one of the given fields: by its name in a record, by its place in a
list. -/
def part? (names : List String) (name : String) : Json → Option Json
  | .record fields => fields.lookup name
  | .list items => items[names.idxOf name]?
  | _ => none

/-- A form that can give a record with the given fields. -/
def Fits (dialect : Dialect) (names : List String) : Json → Prop
  | .record _ => True
  | .list items => items.length ≤ names.length ∨ dialect.ignoresSurplus = true
  | _ => False

/-- The items of a list are the parts for the fields in their places. -/
theorem mapIdx_getElem? (hnames : names.Nodup) (items : List Json) :
    names.mapIdx (fun index _ => items[index]?) =
      names.map fun name => part? names name (.list items) := by
  refine List.ext_getElem ?_ fun index hleft hright => ?_
  · rw [List.length_mapIdx, List.length_map]
  · rw [List.getElem_mapIdx, List.getElem_map]
    unfold part?
    rw [hnames.idxOf_getElem]

theorem parts?_eq_some_iff (hnames : names.Nodup) {parts : List (Option Json)} :
    parts? dialect names form = some parts ↔
      Fits dialect names form ∧ names.map (fun name => part? names name form) = parts := by
  cases form with
  | record fields =>
      show some (names.map fun name => fields.lookup name) = some parts ↔ True ∧ _
      rw [true_and, Option.some_inj]
      rfl
  | list items =>
      show (if names.length < items.length && !dialect.ignoresSurplus then none
        else some (names.mapIdx fun index _ => items[index]?)) = some parts ↔
          (items.length ≤ names.length ∨ dialect.ignoresSurplus = true) ∧ _
      rw [mapIdx_getElem? hnames]
      by_cases hfits : items.length ≤ names.length ∨ dialect.ignoresSurplus = true
      · have hlong : (decide (names.length < items.length) && !dialect.ignoresSurplus) = false := by
          rw [Bool.and_eq_false_iff, decide_eq_false_iff_not, Nat.not_lt, Bool.not_eq_false']
          exact hfits
        rw [hlong, if_neg Bool.false_ne_true, Option.some_inj, and_iff_right hfits]
      · have hlong : (decide (names.length < items.length) && !dialect.ignoresSurplus) = true := by
          rw [not_or, Nat.not_le, Bool.not_eq_true] at hfits
          rw [decide_eq_true hfits.1, hfits.2]
          rfl
        rw [hlong, if_pos rfl]
        exact iff_of_false nofun fun hboth => hfits hboth.1
  | null => exact iff_of_false nofun fun hboth => hboth.1
  | boolean value => exact iff_of_false nofun fun hboth => hboth.1
  | integer value => exact iff_of_false nofun fun hboth => hboth.1
  | fraction value => exact iff_of_false nofun fun hboth => hboth.1
  | text value => exact iff_of_false nofun fun hboth => hboth.1

theorem word?_eq_some_iff {word : Int64} : word? form = some word ↔ form = .integer word.toInt := by
  cases form with
  | integer number =>
      unfold word?
      rw [Decimal.toWord?_eq_some_iff, Json.integer.injEq]
      exact eq_comm
  | _ => exact iff_of_false nofun nofun

/-- Reading on from a part that has to be there, with a reader that takes just what is written. -/
theorem bind_required_iff {Content Value : Type} {read? : Json → Option Content}
    {write : Content → Json}
    (hread : ∀ {form content}, read? form = some content ↔ form = write content)
    {part : Option Json} {next : Content → Option Value} {value : Value} :
    (do next (← read? (← part))) = some value ↔
      ∃ content, part = some (write content) ∧ next content = some value := by
  constructor
  · intro hvalue
    obtain ⟨form, hpart, hmore⟩ := Option.bind_eq_some_iff.mp hvalue
    obtain ⟨content, hcontent, hnext⟩ := Option.bind_eq_some_iff.mp hmore
    exact ⟨content, hread.mp hcontent ▸ hpart, hnext⟩
  · rintro ⟨content, rfl, hnext⟩
    exact Option.bind_eq_some_iff.mpr
      ⟨write content, rfl, Option.bind_eq_some_iff.mpr ⟨content, hread.mpr rfl, hnext⟩⟩

/-- The variant without content that a form names: by the name alone, or as the only field of a
record. -/
def variant? : Json → Option String
  | .text name => some name
  | .record [(name, _)] => some name
  | _ => none

end Form

open Form (part?)

/-! ## Codecs and modes -/

/-- The fields of a codec, in order. -/
def Codec.fields : List String :=
  ["kind", "factor"]

/-- The word for a kind of codec. -/
def Codec.kind : Codec → String
  | identity => "identity"
  | linear _ => "linear"
  | signedOffset => "signed_offset"

theorem Codec.kind_mem (codec : Codec) :
    codec.kind ∈ ["identity", "linear", "signed_offset"] := by
  cases codec <;> simp [kind]

@[simp] theorem Codec.ofForm?_toForm (codec : Codec) : Codec.ofForm? codec.toForm = some codec := by
  cases codec with
  | identity => rfl
  | signedOffset => rfl
  | linear factor =>
      show (Form.word? (.integer factor.toInt)).map Codec.linear = some (.linear factor)
      rw [Form.word?_eq_some_iff.mpr rfl]
      rfl

/-- What a codec was read from has its kind and, for `linear`, its factor. -/
theorem Codec.part?_of_ofForm? {form : Json} {codec : Codec} (hread : ofForm? form = some codec) :
    part? fields "kind" form = some (.text codec.kind) ∧
      ∀ factor, codec = .linear factor →
        part? fields "factor" form = some (.integer factor.toInt) := by
  unfold ofForm? at hread
  split at hread
  · next given =>
      obtain ⟨kindForm, hlookup, hmore⟩ := Option.bind_eq_some_iff.mp hread
      obtain ⟨kind, htext, hcodec⟩ := Option.bind_eq_some_iff.mp hmore
      rw [Json.text?_eq_some_iff] at htext
      replace hlookup : given.lookup "kind" = some (.text kind) := htext ▸ hlookup
      split at hcodec
      · cases hcodec
        exact ⟨hlookup, nofun⟩
      · obtain ⟨factorForm, hfactor, hlinear⟩ := Option.bind_eq_some_iff.mp hcodec
        obtain ⟨factor, hword, rfl⟩ := Option.map_eq_some_iff.mp hlinear
        rw [Form.word?_eq_some_iff] at hword
        refine ⟨hlookup, fun other hsame => ?_⟩
        obtain rfl : factor = other := Codec.linear.inj hsame
        exact hword ▸ hfactor
      · cases hcodec
        exact ⟨hlookup, nofun⟩
      · cases hcodec
  · cases hread
    exact ⟨rfl, nofun⟩
  · next factorForm =>
      obtain ⟨factor, hword, rfl⟩ := Option.map_eq_some_iff.mp hread
      rw [Form.word?_eq_some_iff] at hword
      refine ⟨rfl, fun other hsame => ?_⟩
      obtain rfl : factor = other := Codec.linear.inj hsame
      exact hword ▸ rfl
  · cases hread
    exact ⟨rfl, nofun⟩
  · cases hread

@[simp] theorem Mode.ofForm?_toForm (dialect : Dialect) (mode : Mode) :
    Mode.ofForm? dialect mode.toForm = some mode := by
  cases mode <;> rfl

/-- What a mode was read from names a mode that there is. -/
theorem Mode.variant?_of_ofForm? {dialect : Dialect} {form : Json} {mode : Mode}
    (hread : ofForm? dialect form = some mode) :
    ∃ name ∈ ["session", "direct"], Form.variant? form = some name := by
  have hname : ∀ name, ofName? name = some mode → name ∈ ["session", "direct"] := by
    intro name hmode
    unfold ofName? at hmode
    split at hmode
    · exact List.mem_cons_self
    · exact List.mem_cons_of_mem _ List.mem_cons_self
    · cases hmode
  unfold ofForm? at hread
  split at hread
  · next name => exact ⟨name, hname name hread, rfl⟩
  · next name content =>
      split at hread
      · exact ⟨name, hname name hread, rfl⟩
      · cases hread
  · cases hread

/-! ## Readers, described exactly -/

/-- A form from which a control is read. -/
structure Control.ReadsAs (dialect : Dialect) (form : Json) (control : Control) : Prop where
  fits : Form.Fits dialect fields form
  name : part? fields "name" form = some (.text control.name)
  path : part? fields "path" form = some (.text control.path)
  codec : Form.orDefault Codec.ofForm? .identity (part? fields "codec" form) = some control.codec
  minimum : Form.orDefault Form.word? 0 (part? fields "min" form) = some control.minimum
  maximum : part? fields "max" form = some (.integer control.maximum.toInt)
  default : part? fields "default" form = some (.integer control.default.toInt)

theorem Control.ofForm?_eq_some_iff {dialect : Dialect} {form : Json} {control : Control} :
    ofForm? dialect form = some control ↔ ReadsAs dialect form control := by
  have hparts : ∀ parts, Form.parts? dialect fields form = some parts ↔ _ := fun parts =>
    Form.parts?_eq_some_iff (by decide)
  constructor
  · intro hread
    obtain ⟨parts, hgiven, hmore⟩ := Option.bind_eq_some_iff.mp hread
    obtain ⟨hfits, rfl⟩ := (hparts parts).mp hgiven
    obtain ⟨name, hname, hmore⟩ := (Form.bind_required_iff Json.text?_eq_some_iff).mp hmore
    obtain ⟨path, hpath, hmore⟩ := (Form.bind_required_iff Json.text?_eq_some_iff).mp hmore
    obtain ⟨codec, hcodec, hmore⟩ := Option.bind_eq_some_iff.mp hmore
    obtain ⟨minimum, hminimum, hmore⟩ := Option.bind_eq_some_iff.mp hmore
    obtain ⟨maximum, hmaximum, hmore⟩ := (Form.bind_required_iff Form.word?_eq_some_iff).mp hmore
    obtain ⟨default, hdefault, hmore⟩ := (Form.bind_required_iff Form.word?_eq_some_iff).mp hmore
    obtain rfl := Option.some.inj hmore
    exact ⟨hfits, hname, hpath, hcodec, hminimum, hmaximum, hdefault⟩
  · intro hreads
    refine Option.bind_eq_some_iff.mpr ⟨_, (hparts _).mpr ⟨hreads.fits, rfl⟩, ?_⟩
    refine (Form.bind_required_iff Json.text?_eq_some_iff).mpr ⟨_, hreads.name, ?_⟩
    refine (Form.bind_required_iff Json.text?_eq_some_iff).mpr ⟨_, hreads.path, ?_⟩
    refine Option.bind_eq_some_iff.mpr ⟨_, hreads.codec, ?_⟩
    refine Option.bind_eq_some_iff.mpr ⟨_, hreads.minimum, ?_⟩
    refine (Form.bind_required_iff Form.word?_eq_some_iff).mpr ⟨_, hreads.maximum, ?_⟩
    exact (Form.bind_required_iff Form.word?_eq_some_iff).mpr ⟨_, hreads.default, rfl⟩

/-- A form from which a family is read. -/
structure Family.ReadsAs (dialect : Dialect) (form : Json) (family : Family) : Prop where
  fits : Form.Fits dialect fields form
  id : part? fields "id" form = some (.text family.id)
  name : part? fields "name" form = some (.text family.name)
  mode : Form.orDefault (Mode.ofForm? dialect) .session (part? fields "mode" form) =
    some family.mode
  controls : ∃ items, part? fields "controls" form = some (.list items) ∧
    List.Forall₂ (Control.ReadsAs dialect) items family.controls

theorem Family.ofForm?_eq_some_iff {dialect : Dialect} {form : Json} {family : Family} :
    ofForm? dialect form = some family ↔ ReadsAs dialect form family := by
  have hparts : ∀ parts, Form.parts? dialect fields form = some parts ↔ _ := fun parts =>
    Form.parts?_eq_some_iff (by decide)
  have hcontrols : ∀ items controls, items.mapM (Control.ofForm? dialect) = some controls ↔
      List.Forall₂ (Control.ReadsAs dialect) items controls := fun items controls => by
    simp only [mapM_eq_some_iff, Control.ofForm?_eq_some_iff]
  constructor
  · intro hread
    obtain ⟨parts, hgiven, hmore⟩ := Option.bind_eq_some_iff.mp hread
    obtain ⟨hfits, rfl⟩ := (hparts parts).mp hgiven
    obtain ⟨id, hid, hmore⟩ := (Form.bind_required_iff Json.text?_eq_some_iff).mp hmore
    obtain ⟨name, hname, hmore⟩ := (Form.bind_required_iff Json.text?_eq_some_iff).mp hmore
    obtain ⟨mode, hmode, hmore⟩ := Option.bind_eq_some_iff.mp hmore
    obtain ⟨items, hitems, hmore⟩ := (Form.bind_required_iff Json.list?_eq_some_iff).mp hmore
    obtain ⟨controls, hmapped, hmore⟩ := Option.bind_eq_some_iff.mp hmore
    obtain rfl := Option.some.inj hmore
    exact ⟨hfits, hid, hname, hmode, items, hitems, (hcontrols items controls).mp hmapped⟩
  · rintro ⟨hfits, hid, hname, hmode, items, hitems, hreads⟩
    refine Option.bind_eq_some_iff.mpr ⟨_, (hparts _).mpr ⟨hfits, rfl⟩, ?_⟩
    refine (Form.bind_required_iff Json.text?_eq_some_iff).mpr ⟨_, hid, ?_⟩
    refine (Form.bind_required_iff Json.text?_eq_some_iff).mpr ⟨_, hname, ?_⟩
    refine Option.bind_eq_some_iff.mpr ⟨_, hmode, ?_⟩
    refine (Form.bind_required_iff Json.list?_eq_some_iff).mpr ⟨_, hitems, ?_⟩
    exact Option.bind_eq_some_iff.mpr ⟨_, (hcontrols items _).mpr hreads, rfl⟩

/-! ## Forms that may be given -/

/-- A part is as it is written, or it is left out where it is the usual one. -/
def Form.IsUnlessUsual (usual : Prop) (written : Json) (part : Option Json) : Prop :=
  part = some written ∨ usual ∧ part = none

theorem Form.IsUnlessUsual.orDefault {Value : Type} {read? : Json → Option Value}
    {default value : Value} {written : Json} {part : Option Json}
    (hpart : IsUnlessUsual (value = default) written part) (hread : read? written = some value) :
    Form.orDefault read? default part = some value := by
  rcases hpart with rfl | ⟨rfl, rfl⟩
  · exact hread
  · rfl

/-- A record as which a control may be given, its fields in any order and among any others: all are
as they are written, but the codec and the least value may be left out. -/
structure Control.GivenAs (control : Control) (form : Json) : Prop where
  name : form.field? "name" = some (.text control.name)
  path : form.field? "path" = some (.text control.path)
  codec : Form.IsUnlessUsual (control.codec = .identity) control.codec.toForm (form.field? "codec")
  minimum : Form.IsUnlessUsual (control.minimum = 0) (.integer control.minimum.toInt)
    (form.field? "min")
  maximum : form.field? "max" = some (.integer control.maximum.toInt)
  default : form.field? "default" = some (.integer control.default.toInt)

/-- A record as which a family may be given, its fields in any order and among any others: all are
as they are written, but the mode may be left out, and each control is given as it may be. -/
structure Family.GivenAs (family : Family) (form : Json) : Prop where
  id : form.field? "id" = some (.text family.id)
  name : form.field? "name" = some (.text family.name)
  mode : Form.IsUnlessUsual (family.mode = .session) family.mode.toForm (form.field? "mode")
  controls : ∃ items, form.field? "controls" = some (.list items) ∧
    List.Forall₂ Control.GivenAs family.controls items

theorem Control.givenAs_toForm (control : Control) : control.GivenAs control.toForm :=
  ⟨rfl, rfl, .inl rfl, .inl rfl, rfl, rfl⟩

theorem Family.givenAs_toForm (family : Family) : family.GivenAs family.toForm :=
  ⟨rfl, rfl, .inl rfl, _, rfl, List.forall₂_map_right_iff.mpr
    (List.forall₂_same.mpr fun control _ => control.givenAs_toForm)⟩

theorem Json.exists_record_of_field? {form part : Json} {name : String}
    (hfield : form.field? name = some part) : ∃ fields, form = .record fields := by
  cases form with
  | record fields => exact ⟨fields, rfl⟩
  | _ => cases hfield

theorem Control.GivenAs.readsAs {control : Control} {form : Json} (hgiven : control.GivenAs form)
    (dialect : Dialect) : ReadsAs dialect form control := by
  obtain ⟨given, rfl⟩ := Json.exists_record_of_field? hgiven.name
  exact
    { fits := trivial
      name := hgiven.name
      path := hgiven.path
      codec := hgiven.codec.orDefault (Codec.ofForm?_toForm _)
      minimum := hgiven.minimum.orDefault (Form.word?_eq_some_iff.mpr rfl)
      maximum := hgiven.maximum
      default := hgiven.default }

theorem Family.GivenAs.readsAs {family : Family} {form : Json} (hgiven : family.GivenAs form)
    (dialect : Dialect) : ReadsAs dialect form family := by
  obtain ⟨given, rfl⟩ := Json.exists_record_of_field? hgiven.name
  obtain ⟨items, hitems, hcontrols⟩ := hgiven.controls
  exact
    { fits := trivial
      id := hgiven.id
      name := hgiven.name
      mode := hgiven.mode.orDefault (Mode.ofForm?_toForm dialect _)
      controls := ⟨items, hitems,
        (hcontrols.imp fun control item hitem => hitem.readsAs dialect).flip⟩ }

/-! ## Forms that cannot be read -/

/-- A form of a codec that has no kind that there is, or a linear one that lacks a 64-bit factor. -/
inductive Codec.Faulty (form : Json) : Prop
  | kind (hkind : ∀ kind ∈ ["identity", "linear", "signed_offset"],
      part? fields "kind" form ≠ some (.text kind))
  | factor (hkind : part? fields "kind" form = some (.text "linear"))
      (hfactor : ∀ factor : Int64, part? fields "factor" form ≠ some (.integer factor.toInt))

/-- A form of a control that lacks a part or has one of the wrong type, or one with a faulty
codec. -/
inductive Control.Faulty (form : Json) : Prop
  | text {field : String} (hfield : field ∈ ["name", "path"])
      (hpart : ∀ text, part? fields field form ≠ some (.text text))
  | number {field : String} (hfield : field ∈ ["max", "default"])
      (hpart : ∀ word : Int64, part? fields field form ≠ some (.integer word.toInt))
  | minimum {part : Json} (hpart : part? fields "min" form = some part)
      (hnone : ∀ word : Int64, part ≠ .integer word.toInt)
  | codec {part : Json} (hpart : part? fields "codec" form = some part)
      (hfaulty : Codec.Faulty part)

/-- A form of a family that lacks a part or has one of the wrong type, or one with a mode that there
is not or with a faulty control. -/
inductive Family.Faulty (form : Json) : Prop
  | text {field : String} (hfield : field ∈ ["id", "name"])
      (hpart : ∀ text, part? fields field form ≠ some (.text text))
  | mode {part : Json} (hpart : part? fields "mode" form = some part)
      (hnone : ∀ name ∈ ["session", "direct"], Form.variant? part ≠ some name)
  | controls (hpart : ∀ items, part? fields "controls" form ≠ some (.list items))
  | control {items : List Json} (hpart : part? fields "controls" form = some (.list items))
      {item : Json} (hitem : item ∈ items) (hfaulty : Control.Faulty item)

theorem Codec.Faulty.not_read {form : Json} {codec : Codec} (hfaulty : Faulty form) :
    ofForm? form ≠ some codec := by
  intro hread
  obtain ⟨hkind, hfactor⟩ := part?_of_ofForm? hread
  cases hfaulty with
  | kind hunknown => exact hunknown codec.kind codec.kind_mem hkind
  | factor hlinear hnone =>
      have hsame : "linear" = codec.kind :=
        Json.text.inj (Option.some.inj (hlinear.symm.trans hkind))
      cases codec with
      | linear factor => exact hnone factor (hfactor factor rfl)
      | identity => exact absurd hsame (by decide)
      | signedOffset => exact absurd hsame (by decide)

theorem Control.Faulty.not_reads {dialect : Dialect} {form : Json} {control : Control}
    (hfaulty : Faulty form) : ¬ReadsAs dialect form control := by
  intro hreads
  cases hfaulty with
  | text hfield hpart =>
      rcases List.mem_pair.mp hfield with rfl | rfl
      · exact hpart _ hreads.name
      · exact hpart _ hreads.path
  | number hfield hpart =>
      rcases List.mem_pair.mp hfield with rfl | rfl
      · exact hpart _ hreads.maximum
      · exact hpart _ hreads.default
  | minimum hpart hnone =>
      have hread := hreads.minimum
      rw [hpart] at hread
      exact hnone _ (Form.word?_eq_some_iff.mp hread)
  | codec hpart hfaulty =>
      have hread := hreads.codec
      rw [hpart] at hread
      exact hfaulty.not_read hread

theorem Family.Faulty.not_reads {dialect : Dialect} {form : Json} {family : Family}
    (hfaulty : Faulty form) : ¬ReadsAs dialect form family := by
  intro hreads
  obtain ⟨items, hitems, hcontrols⟩ := hreads.controls
  cases hfaulty with
  | text hfield hpart =>
      rcases List.mem_pair.mp hfield with rfl | rfl
      · exact hpart _ hreads.id
      · exact hpart _ hreads.name
  | mode hpart hnone =>
      have hread := hreads.mode
      rw [hpart] at hread
      obtain ⟨name, hname, hvariant⟩ := Mode.variant?_of_ofForm? hread
      exact hnone name hname hvariant
  | controls hpart => exact hpart items hitems
  | control hpart hitem hfaulty =>
      obtain rfl : _ = items := Json.list.inj (Option.some.inj (hpart.symm.trans hitems))
      obtain ⟨index, hindex, rfl⟩ := List.getElem_of_mem hitem
      exact hfaulty.not_reads (hcontrols.get hindex (hcontrols.length_eq ▸ hindex))

/-! ## The form -/

/-- **What a family is read from.**  Take any format of documents and any family, whatever its
texts, numbers and controls, with or without faults.  It is read back from the form it is written
as.  It is read from every record that gives the same with fields in any order and among unknown
ones, with the mode left out where it is `session`, and in a control the codec where it is
`identity` or the least value where it is zero.  No family is read from a form, whether it is a
record or a list, that lacks the id, the name or the controls, or for a control its name, path,
greatest value or default, or has one of these of the wrong type, or has an unknown mode, an unknown
kind of codec or a linear codec without a 64-bit factor. -/
theorem family_form_readBack (dialect : Dialect) (family : Family) :
    Family.ofForm? dialect family.toForm = some family ∧
    (∀ form, family.GivenAs form → Family.ofForm? dialect form = some family) ∧
    ∀ form, Family.Faulty form → Family.ofForm? dialect form = none := by
  have hgiven : ∀ form, family.GivenAs form → Family.ofForm? dialect form = some family :=
    fun form hform => Family.ofForm?_eq_some_iff.mpr (hform.readsAs dialect)
  refine ⟨hgiven _ family.givenAs_toForm, hgiven, fun form hfaulty => ?_⟩
  refine Option.eq_none_iff_forall_ne_some.mpr fun found hread => ?_
  exact hfaulty.not_reads (Family.ofForm?_eq_some_iff.mp hread)

/-- The built-in vibration family without what may be left out, with a remark and with a unit. -/
def vibrationRemarked : Json :=
  .record [("remark", .text "as shipped"),
    ("controls", .list [.record [("default", .integer 50), ("unit", .text "percent"),
      ("max", .integer 100), ("path", .text "/sys/class/timed_output/vibrator/pwm_value"),
      ("name", .text "intensity")]]),
    ("name", .text "Vibration intensity"), ("id", .text "vibration")]

/-- The same with a linear codec whose factor is a text. -/
def vibrationScaled : Json :=
  .record [("id", .text "vibration"), ("name", .text "Vibration intensity"),
    ("controls", .list [.record [("name", .text "intensity"),
      ("path", .text "/sys/class/timed_output/vibrator/pwm_value"),
      ("codec", .record [("kind", .text "linear"), ("factor", .text "2")]),
      ("max", .integer 100), ("default", .integer 50)]])]

theorem vibration_form_readBack :
    Family.vibration.GivenAs vibrationRemarked ∧ Family.Faulty vibrationScaled ∧
      Family.ofForm? .request vibrationRemarked = some .vibration ∧
      Family.ofForm? .definition vibrationScaled = none := by
  have hgiven : Family.vibration.GivenAs vibrationRemarked :=
    ⟨rfl, rfl, .inr ⟨rfl, rfl⟩, _, rfl,
      .cons ⟨rfl, rfl, .inr ⟨rfl, rfl⟩, .inr ⟨rfl, rfl⟩, rfl, rfl⟩ .nil⟩
  have hfaulty : Family.Faulty vibrationScaled :=
    .control rfl List.mem_cons_self (.codec rfl (.factor rfl nofun))
  exact ⟨hgiven, hfaulty, (family_form_readBack .request .vibration).2.1 _ hgiven,
    (family_form_readBack .definition .vibration).2.2 _ hfaulty⟩

end KernelControls
