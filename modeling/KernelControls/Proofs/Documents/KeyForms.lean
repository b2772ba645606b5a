import KernelControls.Toml.Reader
import Mathlib.Data.List.Forall2
import Mathlib.Tactic.SplitIfs

/-!
# Notations of keys

A key in a document may be any text.  It stands bare, between single quotes, or between double
quotes, where a backslash goes before what could not stand there.  Whichever of these a key was
written in, a reader of TOML finds the key again, and no notation breaks the line it is on.

## Strategy

The grammar is stated without writer and reader: `KeyForm` says which texts stand for a key, and
`Shows` the same of one character between double quotes.  The writer chooses between them, and that
is the only place where its choices are told apart (`keyForm_writeKey`).  What is read, how a key
begins and what its line holds follows for every notation.
-/

namespace KernelControls.Toml

/-! ## The grammar -/

/-- How a character may stand between double quotes: as it is, as a letter behind a backslash, or as
four hexadecimal digits. -/
inductive Shows (character : Char) : List Char → Prop where
  | plain (hmarked : isMarked character = false) (hcontrol : isControl character = false) :
      Shows character [character]
  | letter {letter : Char} (hletter : escaped? letter = some character) :
      Shows character ['\\', letter]
  | code (hsmall : character.toNat < 65536) :
      Shows character ('\\' :: 'u' :: Hexadecimal.fourDigits character.toNat)

/-- How a key may stand in a document: bare, between single quotes, or between double quotes. -/
inductive KeyForm (key : String) : List Char → Prop where
  | bare (hsome : key.toList ≠ []) (hbare : ∀ character ∈ key.toList, isBare character = true) :
      KeyForm key key.toList
  | literal (hliteral : ∀ character ∈ key.toList, isLiteral character = true) :
      KeyForm key ('\'' :: key.toList ++ ['\''])
  | basic {pieces : List (List Char)} (hpieces : List.Forall₂ Shows key.toList pieces) :
      KeyForm key ('"' :: pieces.flatten ++ ['"'])

/-! ## Writing -/

theorem shows_writeEscaped (character : Char) : Shows character (writeEscaped character) := by
  have hletter : ∀ {letter meant : Char}, (character == meant) = true →
      escaped? letter = some meant → Shows character ['\\', letter] := by
    intro letter meant hmeant hread
    rw [beq_iff_eq.mp hmeant]
    exact .letter hread
  unfold writeEscaped
  split_ifs with hbackspace htab hline hfeed hreturn hquote hbackslash hcontrol
  · exact hletter hbackspace rfl
  · exact hletter htab rfl
  · exact hletter hline rfl
  · exact hletter hfeed rfl
  · exact hletter hreturn rfl
  · exact hletter hquote rfl
  · exact hletter hbackslash rfl
  · refine .code ?_
    simp only [isControl, Bool.or_eq_true, decide_eq_true_eq, beq_iff_eq] at hcontrol
    omega
  · exact .plain (by simp [isMarked, hquote, hbackslash]) (Bool.eq_false_iff.mpr hcontrol)

/-- Characters that each stand for themselves or behind a backslash stand so together. -/
theorem keyForm_flatMap {key : String} {write : Char → List Char}
    (hwrite : ∀ character ∈ key.toList, Shows character (write character)) :
    KeyForm key ('"' :: key.toList.flatMap write ++ ['"']) := by
  rw [List.flatMap_def]
  refine .basic ?_
  rw [List.forall₂_map_right_iff, List.forall₂_same]
  exact hwrite

/-- A key is written in a notation that stands for it. -/
theorem keyForm_writeKey (key : String) : KeyForm key (writeKey key) := by
  unfold writeKey
  dsimp only
  split
  · next hbare =>
      simp only [Bool.and_eq_true, Bool.not_eq_true', List.isEmpty_eq_false_iff,
        List.all_eq_true] at hbare
      exact .bare hbare.1 hbare.2
  split
  · next hplain =>
      simp only [Bool.not_eq_true', List.any_eq_false, Bool.or_eq_true, not_or,
        Bool.not_eq_true] at hplain
      have hform : KeyForm key
          ('"' :: key.toList.flatMap (fun character => [character]) ++ ['"']) :=
        keyForm_flatMap fun character hmem =>
          .plain (hplain character hmem).1 (hplain character hmem).2
      rwa [List.flatMap_singleton'] at hform
  split
  · next hliteral =>
      rw [Bool.and_eq_true, List.all_eq_true] at hliteral
      exact .literal hliteral.2
  · exact keyForm_flatMap fun character _ => shows_writeEscaped character

/-! ## Characters within quotes -/

theorem readContent_plain {quoting : Quoting} (hlines : quoting.lines = false) {character : Char}
    (hprinting : isPrinting character = true) (hmark : character ≠ quoting.mark)
    (hescape : quoting.escapes = true → character ≠ '\\') (rest : List Char) :
    readContent quoting (.plain false) (character :: rest) =
      push character (readContent quoting (.plain false) rest) := by
  have hclosing : quoting.closing? (character :: rest) = none := by
    simp [Quoting.closing?, hlines, hmark]
  have hplain : (character == '\\' && quoting.escapes) = false := by
    cases hescapes : quoting.escapes with
    | false => exact Bool.and_false _
    | true => simpa using hescape hescapes
  rw [readContent]
  simp only [Bool.false_and, Bool.false_eq_true, if_false, hclosing, hplain, hprinting, if_true]

theorem readContent_mark {quoting : Quoting} (hlines : quoting.lines = false) (rest : List Char) :
    readContent quoting (.plain false) (quoting.mark :: rest) = some ([], rest) := by
  have hclosing : quoting.closing? (quoting.mark :: rest) = some ([], rest) := by
    simp [Quoting.closing?, hlines]
  rw [readContent]
  simp only [Bool.false_and, Bool.false_eq_true, if_false, hclosing]

theorem isPrinting_of_not_isControl {character : Char} (h : isControl character = false) :
    isPrinting character = true := by
  unfold isControl at h
  unfold isPrinting
  simp only [Bool.or_eq_false_iff, decide_eq_false_iff_not, beq_eq_false_iff_ne, ne_eq] at h
  simp only [Bool.or_eq_true, Bool.and_eq_true, decide_eq_true_eq, bne_iff_ne, ne_eq]
  exact .inr ⟨by omega, h.2⟩

/-- Four hexadecimal digits after `\u` are read as their character. -/
theorem readContent_fourDigits {character : Char} (hsmall : character.toNat < 65536)
    (rest : List Char) :
    readContent .basic .escape ('u' :: (Hexadecimal.fourDigits character.toNat ++ rest)) =
      push character (readContent .basic (.plain false) rest) := by
  have hdigit : ∀ value, Hexadecimal.digit? (Hexadecimal.digit (value % 16)) = some (value % 16) :=
    fun value => Hexadecimal.digit?_digit (Nat.mod_lt _ (by decide))
  have hnumber : 16 * (16 * (16 * (16 * 0 + character.toNat / 4096 % 16) +
      character.toNat / 256 % 16) + character.toNat / 16 % 16) + character.toNat % 16 =
      character.toNat := by omega
  have hvalid : Hexadecimal.character? character.toNat = some character := by
    have hchar : character.toNat.isValidChar := character.valid
    unfold Hexadecimal.character?
    rw [if_pos hchar, Char.ofNat_toNat]
  unfold Hexadecimal.fourDigits
  simp only [List.cons_append, List.nil_append, readContent, hdigit, Option.bind_eq_bind,
    Option.bind_some, beq_self_eq_true, if_true]
  simp only [hnumber, hvalid, Option.bind_some]
  simp

/-- A character between double quotes is read back in whichever way it stands there. -/
theorem readContent_of_shows {character : Char} {piece : List Char}
    (hshows : Shows character piece) (rest : List Char) :
    readContent .basic (.plain false) (piece ++ rest) =
      push character (readContent .basic (.plain false) rest) := by
  have hescape : ∀ letter rest, readContent .basic (.plain false) ('\\' :: letter :: rest) =
      readContent .basic .escape (letter :: rest) := by
    intro letter rest
    rw [readContent]
    simp [Quoting.closing?, Quoting.basic]
  cases hshows with
  | plain hmarked hcontrol =>
      have hother : ∀ other, isMarked other = true → character ≠ other := by
        rintro other hother rfl
        rw [hmarked] at hother
        cases hother
      exact readContent_plain rfl (isPrinting_of_not_isControl hcontrol) (hother _ (by decide))
        (fun _ => hother _ (by decide)) rest
  | @letter letter hletter =>
      -- No letter of the table begins a number.
      have hother : ∀ other, escaped? other = none → (letter == other) = false := by
        intro other hother
        refine beq_false_of_ne ?_
        rintro rfl
        rw [hother] at hletter
        cases hletter
      rw [List.cons_append, List.cons_append, hescape, readContent]
      simp [hother 'u' rfl, hother 'U' rfl, hletter]
  | code hsmall =>
      rw [List.cons_append, List.cons_append, hescape]
      exact readContent_fourDigits hsmall rest

theorem readContent_basic {characters : List Char} {pieces : List (List Char)}
    (hpieces : List.Forall₂ Shows characters pieces) (rest : List Char) :
    readContent .basic (.plain false) (pieces.flatten ++ '"' :: rest) =
      some (characters, rest) := by
  induction hpieces with
  | nil => exact readContent_mark rfl rest
  | cons hfirst _ ih =>
      rw [List.flatten_cons, List.append_assoc, readContent_of_shows hfirst, ih]
      rfl

theorem readContent_literal {characters : List Char}
    (hliteral : ∀ character ∈ characters, isLiteral character = true) (rest : List Char) :
    readContent .literal (.plain false) (characters ++ '\'' :: rest) =
      some (characters, rest) := by
  induction characters with
  | nil => exact readContent_mark rfl rest
  | cons character more ih =>
      have hcharacter := hliteral character List.mem_cons_self
      simp only [isLiteral, bne_iff_ne, ne_eq, Bool.and_eq_true, Bool.or_eq_true, beq_iff_eq,
        Bool.not_eq_true'] at hcharacter
      have hprinting : isPrinting character = true := by
        rcases hcharacter.2 with rfl | hcontrol
        · decide
        · exact isPrinting_of_not_isControl hcontrol
      have hstep : readContent .literal (.plain false) (character :: (more ++ '\'' :: rest)) =
          push character (readContent .literal (.plain false) (more ++ '\'' :: rest)) :=
        readContent_plain rfl hprinting hcharacter.1
          (fun hescapes => absurd hescapes (by decide)) _
      rw [List.cons_append, hstep, ih fun other hother => hliteral other
        (List.mem_cons_of_mem _ hother)]
      rfl

/-! ## Reading -/

theorem readKey_bare {characters : List Char} (hsome : characters ≠ [])
    (hbare : ∀ character ∈ characters, isBare character = true) (rest : List Char) :
    readKey (characters ++ ' ' :: rest) = some (String.ofList characters, ' ' :: rest) := by
  have htake : (characters ++ ' ' :: rest).takeWhile isBare = characters := by
    rw [List.takeWhile_append_of_pos hbare]
    simp [isBare]
  have hdrop : (characters ++ ' ' :: rest).dropWhile isBare = ' ' :: rest := by
    rw [List.dropWhile_append_of_pos hbare]
    simp [isBare]
  cases characters with
  | nil => exact absurd rfl hsome
  | cons first more =>
      have hquote : ∀ quote, isBare quote = false → first ≠ quote := by
        rintro quote hquote rfl
        rw [hbare first List.mem_cons_self] at hquote
        cases hquote
      rw [List.cons_append] at htake hdrop ⊢
      unfold readKey
      simp only
      split
      · next heq => exact absurd (List.cons.inj heq).1 (hquote _ (by decide))
      · next heq => exact absurd (List.cons.inj heq).1 (hquote _ (by decide))
      · rw [htake, hdrop]
        rfl

/-- A key is read back from every notation, up to the blank that follows it. -/
theorem KeyForm.readKey_append {key : String} {form : List Char} (hform : KeyForm key form)
    (rest : List Char) : readKey (form ++ ' ' :: rest) = some (key, ' ' :: rest) := by
  have hquoted : ∀ {read : Option (List Char × List Char)},
      read = some (key.toList, ' ' :: rest) →
      (read.map fun content => (String.ofList content.1, content.2)) =
        some (key, ' ' :: rest) := by
    rintro read rfl
    simp
  cases hform with
  | bare hsome hbare => rw [readKey_bare hsome hbare, String.ofList_toList]
  | literal hliteral =>
      rw [List.append_assoc]
      exact hquoted (readContent_literal hliteral (' ' :: rest))
  | basic hpieces =>
      rw [List.append_assoc]
      exact hquoted (readContent_basic hpieces (' ' :: rest))

/-- A key begins neither with a blank nor with what begins a header, a comment or a line end. -/
theorem KeyForm.exists_head {key : String} {form : List Char} (hform : KeyForm key form) :
    ∃ first rest, form = first :: rest ∧
      isBlank first = false ∧ first ≠ '[' ∧ first ≠ '#' ∧ first ≠ '\n' ∧ first ≠ '\r' := by
  cases hform with
  | bare hsome hbare =>
      obtain ⟨first, more, hkey⟩ := List.exists_cons_of_ne_nil hsome
      have hfirst : isBare first = true := hbare first (hkey ▸ List.mem_cons_self)
      have hother : ∀ other, isBare other = false → first ≠ other := by
        rintro other hother rfl
        rw [hfirst] at hother
        cases hother
      refine ⟨first, more, hkey, ?_, hother _ (by decide), hother _ (by decide),
        hother _ (by decide), hother _ (by decide)⟩
      simp [isBlank, hother ' ' (by decide), hother '\t' (by decide)]
  | literal _ => exact ⟨'\'', _, rfl, by decide, by decide, by decide, by decide, by decide⟩
  | basic _ => exact ⟨'"', _, rfl, by decide, by decide, by decide, by decide, by decide⟩

/-! ## Lines -/

/-- What may stand on a line: no control character but a tab. -/
def OnLine (characters : List Char) : Prop :=
  ∀ character ∈ characters, isControl character = true → character = '\t'

theorem onLine_of_isControl {characters : List Char}
    (hplain : ∀ character ∈ characters, isControl character = false) : OnLine characters := by
  intro character hmem hcontrol
  rw [hplain character hmem] at hcontrol
  cases hcontrol

theorem onLine_singleton {character : Char} (hplain : isControl character = false) :
    OnLine [character] :=
  onLine_of_isControl (by simpa using hplain)

theorem OnLine.append {first second : List Char} (hfirst : OnLine first) (hsecond : OnLine second) :
    OnLine (first ++ second) := by
  intro character hmem
  rcases List.mem_append.mp hmem with hmem | hmem
  · exact hfirst character hmem
  · exact hsecond character hmem

theorem isControl_of_isBare {character : Char} (hbare : isBare character = true) :
    isControl character = false := by
  have hall : ∀ code : Fin 128, isControl (Char.ofNat code.val) = true →
      isBare (Char.ofNat code.val) = false := by decide +kernel
  by_contra hcontrol
  rw [Bool.not_eq_false] at hcontrol
  have hsmall : character.toNat < 128 := by
    simp only [isControl, Bool.or_eq_true, decide_eq_true_eq, beq_iff_eq] at hcontrol
    omega
  have hnever := hall ⟨character.toNat, hsmall⟩
  rw [Char.ofNat_toNat, hbare] at hnever
  cases hnever hcontrol

theorem isControl_of_escaped? {letter meant : Char} (hletter : escaped? letter = some meant) :
    isControl letter = false := by
  unfold escaped? at hletter
  split at hletter
  all_goals first | rfl | cases hletter

theorem isControl_digit (value : Nat) : isControl (Hexadecimal.digit (value % 16)) = false := by
  have hall : ∀ digit : Fin 16, isControl (Hexadecimal.digit digit.val) = false := by decide
  exact hall ⟨value % 16, Nat.mod_lt _ (by decide)⟩

theorem Shows.onLine {character : Char} {piece : List Char} (hshows : Shows character piece) :
    OnLine piece := by
  apply onLine_of_isControl
  cases hshows with
  | plain _ hcontrol => simpa using hcontrol
  | letter hletter => simpa using ⟨by decide, isControl_of_escaped? hletter⟩
  | code _ => simpa [Hexadecimal.fourDigits, isControl_digit] using by decide

theorem onLine_flatten {characters : List Char} {pieces : List (List Char)}
    (hpieces : List.Forall₂ Shows characters pieces) : OnLine pieces.flatten := by
  induction hpieces with
  | nil => exact onLine_of_isControl (by simp)
  | cons hfirst _ ih =>
      rw [List.flatten_cons]
      exact hfirst.onLine.append ih

/-- A key stands on one line in every notation. -/
theorem KeyForm.onLine {key : String} {form : List Char} (hform : KeyForm key form) :
    OnLine form := by
  cases hform with
  | bare _ hbare =>
      exact onLine_of_isControl fun character hmem => isControl_of_isBare (hbare character hmem)
  | literal hliteral =>
      have hkey : OnLine key.toList := by
        intro character hmem hcontrol
        have hcharacter := hliteral character hmem
        simp only [isLiteral, hcontrol, Bool.not_true, Bool.or_false, Bool.and_eq_true,
          beq_iff_eq] at hcharacter
        exact hcharacter.2
      have hquote : OnLine ['\''] := onLine_singleton rfl
      exact (hquote.append hkey).append hquote
  | basic hpieces =>
      have hquote : OnLine ['"'] := onLine_singleton rfl
      exact (hquote.append (onLine_flatten hpieces)).append hquote

end KernelControls.Toml
