import KernelControls.Settings.Layer
import KernelControls.Toml.Stamp
import Mathlib

/-!
# What a layer gives to a setting

The keys of a layer are taken in any case, so a document and the environment give a setting what
they have under its name in any case.  A key may also be an expression that leads into a value.
Such a key spoils the setting that it leads into; all other keys are unrelated.

## Strategy

`Layer.entry` gives its value to the name of a setting just if the key spells the name or leads into
it (`spells_or_leadsInto`).  Where no key leads into a setting, what a layer gives to it is found
by filtering the keys (`value?_entries`), and both kinds of layers are lists of entries.  In the
environment the prefix is cut off first, and the one sign that has a small form in ASCII without
being a letter of ASCII occurs in no name.
-/

namespace KernelControls

theorem Setting.isNaming_name (setting : Setting) :
    ∀ character ∈ setting.name.toList, Layer.isNaming character = true := by
  have hall : setting.name.toList.all Layer.isNaming = true := by cases setting <;> decide
  exact List.all_eq_true.mp hall

namespace Layer

variable {key word : String} {value : LayerValue}

/-! ## Keys -/

/-- Whether a key is a word, in any case. -/
def Spells (key word : String) : Prop :=
  key.toList.map Char.toLower = word.toList

instance (key word : String) : Decidable (Spells key word) :=
  inferInstanceAs (Decidable (_ = _))

/-- Whether a key leads into what a word names: steps into a value follow the word. -/
def LeadsInto (key word : String) : Prop :=
  ∃ steps, steps ≠ [] ∧ key.toList.map Char.toLower = word.toList ++ steps ∧
    leadsInside steps.length steps = true

/-- A step begins with a dot or a bracket. -/
theorem head_of_leadsInside {fuel : Nat} {first : Char} {rest : List Char}
    (hleads : leadsInside fuel (first :: rest) = true) : first = '.' ∨ first = '[' := by
  unfold leadsInside at hleads
  split at hleads
  · next hnone => cases hnone
  · cases hleads
  · next hsteps => exact .inl (List.cons.inj hsteps).1
  · next hsteps => exact .inr (List.cons.inj hsteps).1
  · cases hleads

/-- A key that leads anywhere has a dot or a bracket in it. -/
theorem LeadsInto.exists_mark (hleads : LeadsInto key word) :
    ∃ mark ∈ ['.', '['], mark ∈ key.toList.map Char.toLower := by
  obtain ⟨steps, hsome, hkey, hsteps⟩ := hleads
  obtain ⟨first, rest, rfl⟩ := List.exists_cons_of_ne_nil hsome
  refine ⟨first, ?_, ?_⟩
  · rcases head_of_leadsInside hsteps with rfl | rfl
    · exact List.mem_cons_self
    · exact List.mem_cons_of_mem _ List.mem_cons_self
  · rw [hkey]
    exact List.mem_append_right _ List.mem_cons_self

theorem entry_of_spells (hword : ∀ character ∈ word.toList, isNaming character = true)
    (hspells : Spells key word) : entry key value = (word, value) := by
  have hrest : word.toList.dropWhile isNaming = [] := List.dropWhile_eq_nil_iff.mpr hword
  unfold entry
  rw [hspells]
  simp only [hrest, List.isEmpty_nil, Bool.not_true, Bool.and_false, Bool.false_and,
    Bool.false_eq_true, if_false, String.ofList_toList]

/-- A key has to do with a word only if it spells it or leads into it. -/
theorem spells_or_leadsInto (hentry : (entry key value).1 = word) :
    Spells key word ∨ LeadsInto key word := by
  unfold entry at hentry
  dsimp only at hentry
  split at hentry
  · next hleads =>
      simp only [Bool.and_eq_true, Bool.not_eq_true', List.isEmpty_eq_false_iff] at hleads
      right
      refine ⟨_, hleads.1.2, ?_, hleads.2⟩
      rw [← hentry, String.toList_ofList, List.takeWhile_append_dropWhile]
  · left
    rw [← hentry]
    exact String.toList_ofList.symm

/-! ## Entries -/

theorem lookup_eq_head? {Value : Type} (entries : List (String × Value)) (name : String) :
    entries.lookup name = ((entries.filter fun entry => entry.1 = name).map Prod.snd).head? := by
  induction entries with
  | nil => rfl
  | cons entry rest ih =>
      obtain ⟨known, content⟩ := entry
      rw [Association.lookup_cons_eq_ite]
      by_cases hsame : known = name
      · rw [List.filter_cons_of_pos (by simpa using hsame), if_pos hsame.symm]
        rfl
      · rw [List.filter_cons_of_neg (by simpa using hsame), if_neg (Ne.symm hsame)]
        exact ih

/-- Where no key leads into a word, the keys that spell the word have the say, and the last of
them the last. -/
theorem value?_entries {Item : Type} (key : Item → String) (content : Item → LayerValue)
    (items : List Item) (hword : ∀ character ∈ word.toList, isNaming character = true)
    (hleads : ∀ item ∈ items, ¬LeadsInto (key item) word) :
    value? ⟨items.map fun item => entry (key item) (content item)⟩ word =
      ((items.filter fun item => Spells (key item) word).map content).getLast? := by
  unfold value?
  rw [lookup_eq_head?, List.filter_reverse, List.map_reverse, List.head?_reverse]
  congr 1
  induction items with
  | nil => rfl
  | cons item rest ih =>
      obtain ⟨hfirst, hrest⟩ := List.forall_mem_cons.mp hleads
      rw [List.map_cons]
      by_cases hspells : Spells (key item) word
      · rw [entry_of_spells hword hspells, List.filter_cons_of_pos (by simp),
          List.filter_cons_of_pos (by simpa using hspells), List.map_cons, List.map_cons, ih hrest]
      · have hother : (entry (key item) (content item)).1 ≠ word := fun hentry =>
          (spells_or_leadsInto hentry).elim hspells hfirst
        rw [List.filter_cons_of_neg (by simpa using hother),
          List.filter_cons_of_neg (by simpa using hspells), ih hrest]

/-! ## Variables -/

/-- Whether a variable is one of those for settings, by its prefix in any case. -/
def IsVariable (name : String) : Prop :=
  variablePrefix.toList <+: name.toList.map Char.toLower

theorem toLower_smallLetter (character : Char) :
    (smallLetter character).toLower = smallLetter character := by
  unfold smallLetter
  split
  · rfl
  · exact character.toLower_toLower_eq_toLower

/-- A sign that is no letter is the small form of itself alone. -/
theorem eq_of_smallLetter_eq {character mark : Char} (hmark : mark.isLower = false)
    (hsmall : smallLetter character = mark) : character = mark := by
  unfold smallLetter at hsmall
  split at hsmall
  · rw [← hsmall] at hmark
    cases hmark
  · by_cases hupper : character.isUpper = true
    · have hlower := character.isLower_toLower_eq_isAlpha
      rw [hsmall, hmark, Char.isAlpha, hupper] at hlower
      cases hlower
    · rwa [Char.toLower_eq_of_not_isUpper hupper] at hsmall

/-- The small forms of characters and their small letters are alike as far as names go. -/
theorem smallLetters_eq_iff {characters small : List Char} (hsmall : 'k' ∉ small)
    (hkelvin : '\u212a' ∉ small) :
    characters.map smallLetter = small ↔ characters.map Char.toLower = small := by
  have hsame : ∀ character, smallLetter character ∈ small ∨ character.toLower ∈ small →
      smallLetter character = character.toLower := by
    intro character hmem
    unfold smallLetter at hmem ⊢
    split
    · next hsign =>
        rw [beq_iff_eq] at hsign
        subst hsign
        exact (hmem.elim hsmall hkelvin).elim
    · rfl
  constructor
  · rintro rfl
    exact (List.map_congr_left fun character hmem =>
      hsame character (.inl (List.mem_map_of_mem hmem))).symm
  · rintro rfl
    exact List.map_congr_left fun character hmem =>
      hsame character (.inr (List.mem_map_of_mem hmem))

/-- The key of a variable for settings. -/
def variableKey (name : String) : String :=
  String.ofList ((name.toList.map smallLetter).drop variablePrefix.length)

theorem isPrefixOf_smallLetters (name : String) :
    variablePrefix.toList.isPrefixOf (name.toList.map smallLetter) = true ↔ IsVariable name := by
  unfold IsVariable
  rw [List.isPrefixOf_iff_prefix, List.prefix_iff_eq_take, List.prefix_iff_eq_take, eq_comm,
    ← List.map_take, smallLetters_eq_iff (by decide) (by decide), List.map_take, eq_comm]

instance (name : String) : Decidable (IsVariable name) :=
  decidable_of_iff _ (isPrefixOf_smallLetters name)

theorem entries_ofEnvironment (environment : List (String × String)) :
    (ofEnvironment environment).entries =
      (environment.filter fun pair => IsVariable pair.1).map fun pair =>
        entry (variableKey pair.1) (.text pair.2) := by
  unfold ofEnvironment
  induction environment with
  | nil => rfl
  | cons pair rest ih =>
      obtain ⟨name, content⟩ := pair
      by_cases hvariable : IsVariable name
      · rw [List.filter_cons_of_pos (by simpa using hvariable), List.map_cons, ← ih,
          List.filterMap_cons_some]
        dsimp only
        rw [if_pos ((isPrefixOf_smallLetters name).mpr hvariable)]
        rfl
      · rw [List.filter_cons_of_neg (by simpa using hvariable), ← ih, List.filterMap_cons_none]
        dsimp only
        rw [if_neg (mt (isPrefixOf_smallLetters name).mp hvariable)]

theorem Spells.isVariable {name word : String} (hspells : Spells name (variablePrefix ++ word)) :
    IsVariable name :=
  ⟨word.toList, by rw [hspells, String.toList_append]⟩

section VariableKey

variable {name : String} (hvariable : IsVariable name)
include hvariable

/-- The key of a variable is in small letters, and with the prefix it is the name of the variable in
small letters. -/
theorem variableKey_spec : (variableKey name).toList.map Char.toLower = (variableKey name).toList ∧
    name.toList.map smallLetter = variablePrefix.toList ++ (variableKey name).toList := by
  obtain ⟨rest, hsmall⟩ :=
    List.isPrefixOf_iff_prefix.mp ((isPrefixOf_smallLetters name).mpr hvariable)
  have hkey : (variableKey name).toList = rest := by
    unfold variableKey
    rw [← hsmall, ← String.length_toList, List.drop_left, String.toList_ofList]
  have hlow : (name.toList.map smallLetter).map Char.toLower = name.toList.map smallLetter := by
    rw [List.map_map]
    exact List.map_congr_left fun character _ => toLower_smallLetter character
  rw [← hsmall, List.map_append] at hlow
  rw [hkey]
  exact ⟨(List.append_inj hlow (List.length_map _)).2, hsmall.symm⟩

theorem spells_variableKey (hword : 'k' ∉ word.toList) (hkelvin : '\u212a' ∉ word.toList) :
    Spells (variableKey name) word ↔ Spells name (variablePrefix ++ word) := by
  obtain ⟨hlow, hsmall⟩ := variableKey_spec hvariable
  unfold Spells
  rw [hlow, String.toList_append, ← smallLetters_eq_iff, hsmall, List.append_cancel_left_eq]
  · rw [List.mem_append]
    exact not_or.mpr ⟨by decide, hword⟩
  · rw [List.mem_append]
    exact not_or.mpr ⟨by decide, hkelvin⟩

/-- A variable without dots and brackets in its name leads nowhere. -/
theorem not_leadsInto_variableKey (hdot : '.' ∉ name.toList) (hbracket : '[' ∉ name.toList) :
    ¬LeadsInto (variableKey name) word := by
  intro hleads
  obtain ⟨mark, hmark, hkey⟩ := hleads.exists_mark
  obtain ⟨hlow, hsmall⟩ := variableKey_spec hvariable
  have hmem : mark ∈ name.toList.map smallLetter := by
    rw [hsmall, ← hlow]
    exact List.mem_append_right _ hkey
  obtain ⟨character, hcharacter, hsame⟩ := List.mem_map.mp hmem
  rcases List.mem_pair.mp hmark with rfl | rfl
  · exact hdot (eq_of_smallLetter_eq rfl hsame ▸ hcharacter)
  · exact hbracket (eq_of_smallLetter_eq rfl hsame ▸ hcharacter)

end VariableKey

end Layer

/-! ## What settings are given -/

/-- The variables of an environment give settings the given texts: to each at most one, under its
name in any case.  No other variable for settings has a dot or a bracket in its name. -/
structure EnvironmentGives (environment : List (String × String))
    (given : Setting → Option String) : Prop where
  texts : ∀ setting : Setting, (environment.filter fun pair =>
    Layer.Spells pair.1 (Layer.variablePrefix ++ setting.name)).map Prod.snd =
      (given setting).toList
  plain : ∀ pair ∈ environment, Layer.IsVariable pair.1 →
    '.' ∉ pair.1.toList ∧ '[' ∉ pair.1.toList

/-- The fields of a document give settings the given texts: to each at most one, under its name in
any case.  No other field leads into a setting. -/
structure FieldsGive (fields : Toml.Fields) (given : Setting → Option String) : Prop where
  texts : ∀ setting : Setting, (fields.filter fun field =>
    Layer.Spells field.1 setting.name).map Prod.snd = (given setting).toList.map Toml.text
  plain : ∀ field ∈ fields, ∀ setting : Setting, ¬Layer.LeadsInto field.1 setting.name

theorem getLast?_toList_map {Item Value : Type} (item : Option Item) (f : Item → Value) :
    (item.toList.map f).getLast? = item.map f := by
  cases item <;> rfl

/-- Among the variables for settings, those whose keys spell a setting are those that spell it with
the prefix. -/
theorem filter_variableKey (environment : List (String × String)) (setting : Setting) :
    ((environment.filter fun pair => Layer.IsVariable pair.1).filter fun pair =>
      Layer.Spells (Layer.variableKey pair.1) setting.name) =
      environment.filter fun pair =>
        Layer.Spells pair.1 (Layer.variablePrefix ++ setting.name) := by
  have hsmall : 'k' ∉ setting.name.toList ∧ '\u212a' ∉ setting.name.toList := by
    cases setting <;> decide
  rw [List.filter_filter]
  refine List.filter_congr fun pair _ => ?_
  rw [← Bool.decide_and, decide_eq_decide]
  constructor
  · rintro ⟨hspells, hvariable⟩
    exact (Layer.spells_variableKey hvariable hsmall.1 hsmall.2).mp hspells
  · intro hspells
    exact ⟨(Layer.spells_variableKey hspells.isVariable hsmall.1 hsmall.2).mpr hspells,
      hspells.isVariable⟩

theorem EnvironmentGives.value?_eq {environment : List (String × String)}
    {given : Setting → Option String} (hgives : EnvironmentGives environment given)
    (setting : Setting) :
    (Layer.ofEnvironment environment).value? setting.name = (given setting).map .text := by
  have hleads : ∀ pair ∈ environment.filter fun pair => Layer.IsVariable pair.1,
      ¬Layer.LeadsInto (Layer.variableKey pair.1) setting.name := by
    intro pair hpair
    obtain ⟨hmem, hvariable⟩ := List.mem_filter.mp hpair
    rw [decide_eq_true_iff] at hvariable
    obtain ⟨hdot, hbracket⟩ := hgives.plain pair hmem hvariable
    exact Layer.not_leadsInto_variableKey hvariable hdot hbracket
  have hcontents : ((environment.filter fun pair =>
      Layer.Spells pair.1 (Layer.variablePrefix ++ setting.name)).map fun pair =>
        LayerValue.text pair.2) = (given setting).toList.map .text := by
    rw [← hgives.texts, List.map_map]
    rfl
  have hvalue := Layer.value?_entries _ (fun pair => .text pair.2) _ setting.isNaming_name hleads
  rw [← Layer.entries_ofEnvironment, filter_variableKey, hcontents, getLast?_toList_map] at hvalue
  exact hvalue

theorem FieldsGive.value?_eq {fields : Toml.Fields} {given : Setting → Option String}
    (hgives : FieldsGive fields given) (setting : Setting) :
    (Layer.ofTomlFields fields).value? setting.name = (given setting).map .text := by
  have hcontents : ((fields.filter fun field => Layer.Spells field.1 setting.name).map
      fun field => Layer.ofToml field.2) = (given setting).toList.map .text := by
    have htexts := congrArg (List.map Layer.ofToml) (hgives.texts setting)
    rw [List.map_map, List.map_map] at htexts
    exact htexts
  have hvalue := Layer.value?_entries Prod.fst (fun field => Layer.ofToml field.2) fields
    setting.isNaming_name fun field hfield => hgives.plain field hfield setting
  rw [hcontents, getLast?_toList_map] at hvalue
  exact hvalue

/-! ## Stamps -/

/-- A field whose stamps were replaced has its key still. -/
def Toml.Resolves (field other : String × Toml) : Prop :=
  other.1 = field.1 ∧ Toml.resolve? field.2 = some other.2

theorem Toml.resolves_of_resolveFields? {fields resolved : Toml.Fields}
    (hresolve : Toml.resolveFields? fields = some resolved) :
    List.Forall₂ Toml.Resolves fields resolved := by
  induction fields generalizing resolved with
  | nil =>
      cases hresolve
      exact .nil
  | cons field rest ih =>
      obtain ⟨key, content⟩ := field
      obtain ⟨first, hfirst, hmore⟩ := Option.bind_eq_some_iff.mp hresolve
      obtain ⟨others, hothers, hsame⟩ := Option.bind_eq_some_iff.mp hmore
      cases hsame
      exact .cons ⟨rfl, hfirst⟩ (ih hothers)

/-- Where the fields that a condition on keys picks are texts, replacing stamps leaves them. -/
theorem Toml.filter_texts_of_resolves {fields resolved : Toml.Fields} (picks : String → Bool)
    (hresolves : List.Forall₂ Toml.Resolves fields resolved) {texts : List String}
    (htexts : (fields.filter fun field => picks field.1).map Prod.snd = texts.map Toml.text) :
    (resolved.filter fun field => picks field.1).map Prod.snd = texts.map Toml.text := by
  induction hresolves generalizing texts with
  | nil => exact htexts
  | @cons field other rest others hfirst hrest ih =>
      obtain ⟨hkey, hcontent⟩ := hfirst
      cases hpicks : picks field.1 with
      | false =>
          rw [List.filter_cons_of_neg (by simp [hpicks])] at htexts
          rw [List.filter_cons_of_neg (by simp [hkey, hpicks])]
          exact ih htexts
      | true =>
          rw [List.filter_cons_of_pos (by simp [hpicks]), List.map_cons] at htexts
          obtain ⟨text, more, rfl, htext, hmore⟩ := List.map_eq_cons_iff.mp htexts.symm
          rw [← htext] at hcontent
          rw [List.filter_cons_of_pos (by simp [hkey, hpicks]), List.map_cons, List.map_cons,
            ih hmore.symm]
          exact congrArg (· :: more.map Toml.text) (Option.some.inj hcontent).symm

theorem FieldsGive.of_resolve {fields resolved : Toml.Fields} {given : Setting → Option String}
    (hgives : FieldsGive fields given) (hresolve : Toml.resolveDocument? fields = some resolved) :
    FieldsGive resolved given := by
  unfold Toml.resolveDocument? at hresolve
  split at hresolve
  · cases hresolve
  · have hresolves := Toml.resolves_of_resolveFields? hresolve
    refine ⟨fun setting => Toml.filter_texts_of_resolves
      (fun key => decide (Layer.Spells key setting.name)) hresolves (hgives.texts setting),
      fun field hfield => ?_⟩
    obtain ⟨index, hindex, rfl⟩ := List.getElem_of_mem hfield
    have hsame := hresolves.get (hresolves.length_eq ▸ hindex) hindex
    rw [List.get_eq_getElem, List.get_eq_getElem] at hsame
    rw [hsame.1]
    exact hgives.plain _ (List.getElem_mem _)

end KernelControls
