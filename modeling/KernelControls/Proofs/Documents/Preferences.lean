import KernelControls.Preferences.Document
import KernelControls.Proofs.Documents.KeyForms
import KernelControls.Proofs.Documents.TomlWriting

/-!
# Preferences are read back from their document

A preference file holds a header and one line for every entry.  Reading it gives the same
preferences, whatever the keys are.

## Strategy

The document is followed line by line: the header is one statement, and so is every entry.
Carrying the statements out appends one field after the other to the table of the header, since
the keys of preferences differ.  Entries in ascending order are put back in this order, because
a key above all others goes last.
-/

namespace KernelControls

namespace Toml

/-! ## Lines -/

/-- What a line of a preference file says. -/
def entryStatement (entry : String × Int64) : Statement :=
  .assign [entry.1] (.integer entry.2)

theorem readParts_writeKey (key : String) (rest : List Char) :
    readParts partLimit (writeKey key ++ ' ' :: '=' :: rest) = some ([key], '=' :: rest) := by
  obtain ⟨first, more, hkey, hblank, -⟩ := (keyForm_writeKey key).exists_head
  have hstart : skipBlanks (writeKey key ++ ' ' :: '=' :: rest) =
      writeKey key ++ ' ' :: '=' :: rest := by
    rw [hkey]
    exact List.dropWhile_cons_of_neg (by simp [hblank])
  have hblanks : skipBlanks (' ' :: '=' :: rest) = '=' :: rest := rfl
  show readParts (78 + 1) _ = _
  unfold readParts
  simp only [hstart, (keyForm_writeKey key).readKey_append, Option.bind_eq_bind,
    Option.bind_some, hblanks]
  rfl

theorem readStatement_entryLine (entry : String × Int64) (rest : List Char) :
    readStatement (Preferences.entryLine entry ++ rest) = some (entryStatement entry, rest) := by
  have hline : Preferences.entryLine entry ++ rest = writeKey entry.1 ++
      ' ' :: '=' :: ' ' :: (Decimal.write entry.2.toInt ++ '\n' :: rest) := by
    simp [Preferences.entryLine]
  have hassignment : readAssignment (readValue nestingLimit)
      (Preferences.entryLine entry ++ rest) =
        some (([entry.1], .integer entry.2), '\n' :: rest) := by
    have hblanks : skipBlanks (' ' :: (Decimal.write entry.2.toInt ++ '\n' :: rest)) =
        Decimal.write entry.2.toInt ++ '\n' :: rest := skipBlanks_write entry.2 rest
    unfold readAssignment
    rw [hline, readParts_writeKey]
    simp only [Option.bind_eq_bind, Option.bind_some, readMark, if_true, hblanks]
    rw [show nestingLimit = 78 + 1 from rfl, readValue_write]
    rfl
  obtain ⟨first, more, hkey, -, hbracket, -⟩ :=
    (keyForm_writeKey entry.1).exists_head
  have hhead : Preferences.entryLine entry ++ rest =
      first :: (more ++ ' ' :: '=' :: ' ' :: (Decimal.write entry.2.toInt ++ '\n' :: rest)) := by
    rw [hline, hkey, List.cons_append]
  rw [hhead] at hassignment ⊢
  unfold readStatement
  split
  · next heq => exact absurd (List.cons.inj heq).1 hbracket
  · next heq => exact absurd (List.cons.inj heq).1 hbracket
  · rw [hassignment]
    rfl

/-- The lines of entries are their statements, given a step for every line and one more. -/
theorem readStatements_entryLines (entries : List (String × Int64)) {fuel : Nat}
    (hfuel : entries.length < fuel) :
    readStatements fuel (entries.flatMap Preferences.entryLine) =
      some (entries.map entryStatement) := by
  induction entries generalizing fuel with
  | nil =>
      obtain ⟨more, rfl⟩ := Nat.exists_eq_add_one_of_ne_zero (Nat.ne_of_gt hfuel)
      rfl
  | cons entry rest ih =>
      obtain ⟨more, rfl⟩ := Nat.exists_eq_add_one_of_ne_zero (Nat.ne_zero_of_lt hfuel)
      have hline := readStatement_entryLine entry (rest.flatMap Preferences.entryLine)
      have hrest := ih (Nat.lt_of_succ_lt_succ hfuel)
      obtain ⟨first, after, hkey, hblank, -, hcomment, hnewline, hreturn⟩ :=
        (keyForm_writeKey entry.1).exists_head
      obtain ⟨last, hhead⟩ : ∃ last,
          Preferences.entryLine entry ++ rest.flatMap Preferences.entryLine = first :: last := by
        simp [Preferences.entryLine, hkey]
      have hskip : skipBlanks (first :: last) = first :: last :=
        List.dropWhile_cons_of_neg (by simp [hblank])
      have hstatement : (first == '#' || first == '\n' || first == '\r') = false := by
        simp [hcomment, hnewline, hreturn]
      rw [hhead] at hline
      rw [List.flatMap_cons, hhead, readStatements, hskip]
      simp only [hstatement, Bool.false_eq_true, if_false, hline, Option.bind_eq_bind,
        Option.bind_some, hrest]
      rfl

/-! ## Carrying out -/

/-- The field of an entry. -/
def entryField (entry : String × Int64) : String × Toml :=
  (entry.1, .integer entry.2)

/-- Entries with different keys become fields one after the other. -/
theorem foldlM_follow_entries (entries : List (String × Int64)) (known : Fields)
    (hkeys : (entries.map Prod.fst).Nodup)
    (hnew : ∀ entry ∈ entries, known.lookup entry.1 = none) :
    (entries.map entryStatement).foldlM Draft.follow
        ⟨[("values", .table .header known)], ["values"]⟩ =
      some ⟨[("values", .table .header (known ++ entries.map entryField))], ["values"]⟩ := by
  induction entries generalizing known with
  | nil => simp
  | cons entry rest ih =>
      have ⟨hfirst, hrest⟩ := List.nodup_cons.mp hkeys
      have hfollow : Draft.follow ⟨[("values", .table .header known)], ["values"]⟩
          (entryStatement entry) =
            some ⟨[("values", .table .header (known ++ [entryField entry]))], ["values"]⟩ := by
        simp [Draft.follow, entryStatement, under, define, hnew entry List.mem_cons_self,
          Association.put, entryField]
      have hlater : ∀ later ∈ rest, (known ++ [entryField entry]).lookup later.1 = none := by
        intro later hlater
        have hdiffer : later.1 ≠ entry.1 := fun hsame =>
          hfirst (List.mem_map.mpr ⟨later, hlater, hsame⟩)
        simp [List.lookup_append, hnew later (List.mem_cons_of_mem _ hlater), entryField,
          Association.lookup_cons_eq_ite, hdiffer]
      rw [List.map_cons, List.foldlM_cons, hfollow]
      simp only [Option.bind_eq_bind, Option.bind_some]
      rw [ih _ hrest hlater]
      simp

end Toml

/-! ## Documents -/

namespace Preferences

theorem nodup_keys (preferences : Preferences) :
    (preferences.entries.map Prod.fst).Nodup := by
  refine List.pairwise_map.mpr (preferences.ascending.imp fun hbelow hsame => ?_)
  rw [hsame] at hbelow
  exact String.lt_irrefl _ hbelow

theorem insertEntry_last {key : String} (value : Int64) {entries : List (String × Int64)}
    (habove : ∀ entry ∈ entries, entry.1 < key) :
    insertEntry key value entries = entries ++ [(key, value)] := by
  induction entries with
  | nil => rfl
  | cons entry rest ih =>
      have hfirst := habove entry List.mem_cons_self
      have hnotBelow : ¬ key < entry.1 := fun hbelow =>
        String.lt_irrefl _ (String.lt_trans hbelow hfirst)
      have hdiffer : key ≠ entry.1 := by
        rintro rfl
        exact String.lt_irrefl _ hfirst
      rw [insertEntry, if_neg hnotBelow, if_neg hdiffer,
        ih fun later hlater => habove later (List.mem_cons_of_mem _ hlater)]
      rfl

theorem ofList_entries (preferences : Preferences) : ofList preferences.entries = preferences := by
  have hfold : ∀ (entries : List (String × Int64)) (known : Preferences),
      (known.entries ++ entries).Pairwise (fun earlier later => earlier.1 < later.1) →
      (entries.foldl (fun known entry => known.insert entry.1 entry.2) known).entries =
        known.entries ++ entries := by
    intro entries
    induction entries with
    | nil => intro known _; exact (List.append_nil _).symm
    | cons entry rest ih =>
        intro known hascending
        have habove : ∀ earlier ∈ known.entries, earlier.1 < entry.1 := fun earlier hearlier =>
          (List.pairwise_append.mp hascending).2.2 earlier hearlier entry List.mem_cons_self
        have hinsert : (known.insert entry.1 entry.2).entries = known.entries ++ [entry] :=
          insertEntry_last entry.2 habove
        rw [List.foldl_cons, ih]
        · rw [hinsert, List.append_assoc]
          rfl
        · rw [hinsert, List.append_assoc]
          exact hascending
  have hentries : (ofList preferences.entries).entries = preferences.entries :=
    hfold preferences.entries .empty preferences.ascending
  obtain ⟨entries, ascending⟩ := preferences
  generalize ofList entries = read at hentries ⊢
  obtain ⟨found, foundAscending⟩ := read
  obtain rfl : found = entries := hentries
  rfl

theorem mapM_entryOf? (entries : List (String × Int64)) :
    (entries.map Toml.entryField).mapM entryOf? = some entries := by
  induction entries with
  | nil => rfl
  | cons entry rest ih =>
      rw [List.map_cons, List.mapM_cons, ih]
      rfl

theorem length_le_length_flatMap_entryLine (entries : List (String × Int64)) :
    entries.length ≤ (entries.flatMap entryLine).length := by
  induction entries with
  | nil => exact Nat.le_refl _
  | cons entry rest ih =>
      rw [List.flatMap_cons, List.length_append, List.length_cons]
      have hline : 0 < (entryLine entry).length := by
        simp only [entryLine, List.length_append, List.length_cons]
        omega
      omega

theorem readStatements_header (fuel : Nat) {rest : List Char} {statements : List Toml.Statement}
    (hrest : Toml.readStatements fuel rest = some statements) :
    Toml.readStatements (fuel + 1) ("[values]\n".toList ++ rest) =
      some (.openTable ["values"] :: statements) := by
  have hheader : Toml.readStatement ('[' :: ("values]\n".toList ++ rest)) =
      some (.openTable ["values"], rest) := rfl
  have hskip : Toml.skipBlanks ("[values]\n".toList ++ rest) =
      '[' :: ("values]\n".toList ++ rest) := rfl
  rw [Toml.readStatements, hskip]
  dsimp only
  rw [if_neg (by decide), hheader]
  simp only [Option.bind_eq_bind, Option.bind_some, hrest]

theorem read?_document (preferences : Preferences) : Toml.read? preferences.document =
    some [("values", .table .header (preferences.entries.map Toml.entryField))] := by
  have htext : preferences.document.toList =
      "[values]\n".toList ++ preferences.entries.flatMap entryLine := String.toList_ofList
  have hfuel : preferences.entries.length <
      ("[values]\n".toList ++ preferences.entries.flatMap entryLine).length := by
    have hlines := length_le_length_flatMap_entryLine preferences.entries
    rw [List.length_append]
    show preferences.entries.length < 9 + _
    omega
  have hstatements := readStatements_header _
    (Toml.readStatements_entryLines preferences.entries hfuel)
  have hentries := Toml.foldlM_follow_entries preferences.entries [] preferences.nodup_keys
    fun _ _ => rfl
  unfold Toml.read?
  rw [htext]
  show (Toml.readStatements
    (("[values]\n".toList ++ preferences.entries.flatMap entryLine).length + 1)
    ("[values]\n".toList ++ preferences.entries.flatMap entryLine)).bind Toml.ofStatements? = _
  rw [hstatements]
  show ((preferences.entries.map Toml.entryStatement).foldlM Toml.Draft.follow
    ⟨[("values", .table .header [])], ["values"]⟩).map Toml.Draft.fields = _
  rw [hentries]
  rfl

/-- **Preferences are read back from their document.** -/
@[simp] theorem ofDocument?_document (preferences : Preferences) :
    ofDocument? preferences.document = some preferences := by
  unfold ofDocument?
  rw [read?_document]
  show ((preferences.entries.map Toml.entryField).mapM entryOf?).map ofList = _
  rw [mapM_entryOf?]
  exact congrArg some preferences.ofList_entries

end Preferences

end KernelControls
