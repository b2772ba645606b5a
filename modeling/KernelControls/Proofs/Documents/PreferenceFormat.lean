import KernelControls.Proofs.Documents.ByteOrder
import KernelControls.Proofs.Stores.KeptFiles
import KernelControls.Proofs.Documents.KeyForms
import Mathlib.Data.Finset.Insert
import Mathlib.Data.Set.Finite.List

/-!
# The format of preference files

A preference file has a header and a line for every key, in the order of the bytes of the keys.
Keys are whatever definitions call their nodes, so a key may be empty, and it may hold quotes, line
ends and anything else.  The file is still made of lines, and it says exactly which keys have which
values.

## Strategy

Preferences are known by what they answer (`eq_of_get?_eq`), and they answer as any finite map does
(`exists_get?_eq`), so what holds of all preferences holds of all finite maps.  A line is described
by the notations of its key (`Toml.KeyForm`), not by the writer that chooses one.  Documents are
read back; here this is carried over to the bytes and to the file that holds them.
-/

namespace KernelControls

/-! ## Finite maps -/

namespace Preferences

theorem mem_entries_iff {preferences : Preferences} {key : String} {value : Int64} :
    (key, value) ∈ preferences.entries ↔ preferences.get? key = some value := by
  unfold get?
  rw [List.lookup_eq_some_iff]
  constructor
  · intro hmem
    obtain ⟨before, after, hentries⟩ := List.append_of_mem hmem
    refine ⟨before, after, hentries, fun earlier hearlier => ?_⟩
    -- A key that stands earlier is below this one.
    have hascending := preferences.ascending
    rw [hentries] at hascending
    have hbelow : earlier.1 < key :=
      (List.pairwise_append.mp hascending).2.2 earlier hearlier _ List.mem_cons_self
    rw [bne_iff_ne]
    exact (String.ne_of_lt hbelow).symm
  · rintro ⟨before, after, hentries, -⟩
    rw [hentries]
    exact List.mem_append_right _ List.mem_cons_self

/-- Preferences are known by what they answer. -/
theorem eq_of_get?_eq {preferences other : Preferences}
    (hsame : ∀ key, preferences.get? key = other.get? key) : preferences = other := by
  have hdifferent : ∀ preferences : Preferences, preferences.entries.Nodup := fun preferences =>
    preferences.ascending.imp fun hbelow heq => String.ne_of_lt hbelow (congrArg Prod.fst heq)
  have hperm : preferences.entries.Perm other.entries := by
    rw [List.perm_ext_iff_of_nodup (hdifferent preferences) (hdifferent other)]
    rintro ⟨key, value⟩
    rw [mem_entries_iff, mem_entries_iff, hsame]
  have hentries : preferences.entries = other.entries :=
    hperm.eq_of_pairwise (fun _ _ _ _ hbelow habove => absurd habove (String.lt_asymm hbelow))
      preferences.ascending other.ascending
  obtain ⟨entries, ascending⟩ := preferences
  obtain ⟨others, othersAscending⟩ := other
  obtain rfl : entries = others := hentries
  rfl

theorem finite_keys (preferences : Preferences) : {key | preferences.get? key ≠ none}.Finite := by
  refine (preferences.entries.map Prod.fst).finite_toSet.subset fun key hkey => ?_
  obtain ⟨value, hvalue⟩ := Option.ne_none_iff_exists'.mp hkey
  exact List.mem_map.mpr ⟨(key, value), mem_entries_iff.mpr hvalue, rfl⟩

/-- Preferences answer as any finite map does. -/
theorem exists_get?_eq {values : String → Option Int64}
    (hfinite : {key | values key ≠ none}.Finite) :
    ∃ preferences : Preferences, ∀ key, preferences.get? key = values key := by
  obtain ⟨keys, hkeys⟩ := hfinite.exists_finset
  replace hkeys : ∀ key, values key ≠ none → key ∈ keys := fun key hkey => (hkeys key).mpr hkey
  clear hfinite
  induction keys using Finset.induction_on generalizing values with
  | empty =>
      refine ⟨.empty, fun key => ?_⟩
      by_contra hvalue
      exact absurd (hkeys key (Ne.symm hvalue)) (Finset.notMem_empty key)
  | insert key keys _ ih =>
      -- Without the key there are fewer keys, and its value is set last.
      have hfewer : ∀ other, Function.update values key none other ≠ none → other ∈ keys := by
        intro other hother
        rw [Function.update_apply] at hother
        split at hother
        · exact absurd rfl hother
        · next hdiffers => exact (Finset.mem_insert.mp (hkeys other hother)).resolve_left hdiffers
      obtain ⟨others, hothers⟩ := ih hfewer
      cases hvalue : values key with
      | none => exact ⟨others, fun other => by rw [hothers, ← hvalue, Function.update_eq_self]⟩
      | some value =>
          refine ⟨others.insert key value, fun other => ?_⟩
          rw [get?_insert, hothers, Function.update_apply]
          split
          · next hsame => rw [hsame, hvalue]
          · rfl

/-! ## The layout of a document -/

/-- The line of an entry: its key, an equals sign and its number, and nothing that ends a line. -/
structure EntryForm (entry : String × Int64) (line : List Char) : Prop where
  shape : ∃ form, Toml.KeyForm entry.1 form ∧
    line = form ++ [' ', '=', ' '] ++ Decimal.write entry.2.toInt
  onLine : Toml.OnLine line

theorem onLine_write (number : Int) : Toml.OnLine (Decimal.write number) := by
  refine Toml.onLine_of_isControl fun character hmem => Toml.isControl_of_isBare ?_
  rcases Toml.eq_minus_or_isDigit_of_mem_write hmem with rfl | hdigit
  · decide
  · simp [Toml.isBare, Char.isAlphanum, hdigit]

/-- The line that is written for an entry, without its end. -/
def entryText (entry : String × Int64) : List Char :=
  Toml.writeKey entry.1 ++ [' ', '=', ' '] ++ Decimal.write entry.2.toInt

theorem entryForm_entryText (entry : String × Int64) : EntryForm entry (entryText entry) := by
  have hform := Toml.keyForm_writeKey entry.1
  have hequals : Toml.OnLine [' ', '=', ' '] :=
    Toml.onLine_of_isControl (by simp [Toml.isControl])
  exact ⟨⟨_, hform, rfl⟩, (hform.onLine.append hequals).append (onLine_write _)⟩

theorem exists_lines (preferences : Preferences) :
    ∃ lines, List.Forall₂ EntryForm preferences.entries lines ∧
      preferences.document.toList =
        "[values]\n".toList ++ lines.flatMap fun line => line ++ ['\n'] := by
  refine ⟨preferences.entries.map entryText, ?_, ?_⟩
  · rw [List.forall₂_map_right_iff, List.forall₂_same]
    exact fun entry _ => entryForm_entryText entry
  · have htext : preferences.document.toList =
        "[values]\n".toList ++ preferences.entries.flatMap entryLine := String.toList_ofList
    have hline : entryLine = fun entry => entryText entry ++ ['\n'] := rfl
    rw [htext, hline, List.flatMap_map]

theorem keys_in_byte_order (preferences : Preferences) :
    (preferences.entries.map Prod.fst).Pairwise fun earlier later =>
      Text.bytes earlier < Text.bytes later := by
  rw [List.pairwise_map]
  exact preferences.ascending.imp fun hbelow => Text.lt_iff_bytes_lt.mp hbelow

/-! ## Reading back -/

theorem ofContent_document (preferences : Preferences) :
    ofContent (some preferences.document.toUTF8) = preferences := by
  unfold ofContent
  rw [Option.bind_some, fromUTF8?_toUTF8, Option.bind_some, ofDocument?_document, Option.getD_some]

end Preferences

/-- A file that was put in place holds the document of its preferences. -/
theorem PreferenceFile.content_written {Files : Type} [FileSystem (StateM Files)]
    [LawfulFiles Files] {path : String} {preferences : Preferences} {files : Files}
    (haccepted : (perform (write path preferences) files).1 = .ok ()) :
    fileContent path (perform (write path preferences) files).2 =
      some preferences.document.toUTF8 := by
  rcases write_cases path preferences files with ⟨_, hwrite⟩ | ⟨_, _, -, hwrite⟩ | ⟨hplaced, hwrite⟩
  · rw [hwrite] at haccepted; cases haccepted
  · rw [hwrite] at haccepted; cases haccepted
  · unfold fileContent
    rw [hwrite, LawfulFiles.isPresent_replaced _ _ _ _ hplaced, if_pos rfl,
      LawfulFiles.read_replaced _ _ _ _ hplaced]
    rfl

namespace Preferences

/-- **The format loses nothing.**  Every finite map from keys to values is what exactly one
preferences answer.  Their document is a header and one line for each entry, the keys in ascending
order of their bytes, each of them bare or in quotes, with no control character on a line but tabs.
The preferences are read back from the document, from its bytes, and from any file that was put in
place with them. -/
theorem format_lossless {values : String → Option Int64}
    (hfinite : {key | values key ≠ none}.Finite) :
    ∃ preferences : Preferences,
      (∀ other : Preferences, (∀ key, other.get? key = values key) ↔ other = preferences) ∧
      ((preferences.entries.map Prod.fst).Pairwise fun earlier later =>
        Text.bytes earlier < Text.bytes later) ∧
      (∃ lines, List.Forall₂ EntryForm preferences.entries lines ∧
        preferences.document.toList =
          "[values]\n".toList ++ lines.flatMap fun line => line ++ ['\n']) ∧
      ofDocument? preferences.document = some preferences ∧
      ofContent (some preferences.document.toUTF8) = preferences ∧
      ∀ (path : String) (tree : FileTree),
        let written := perform (PreferenceFile.write path preferences) tree
        written.1 = .ok () →
          fileContent path written.2 = some preferences.document.toUTF8 ∧
          (perform (PreferenceFile.read path) written.2).1 = .ok preferences := by
  obtain ⟨preferences, hanswers⟩ := exists_get?_eq hfinite
  refine ⟨preferences, fun other => ⟨fun hother => ?_, ?_⟩, preferences.keys_in_byte_order,
    preferences.exists_lines, preferences.ofDocument?_document, preferences.ofContent_document, ?_⟩
  · exact eq_of_get?_eq fun key => (hother key).trans (hanswers key).symm
  · rintro rfl
    exact hanswers
  · intro path tree written haccepted
    exact ⟨PreferenceFile.content_written haccepted, PreferenceFile.read_written haccepted⟩

/-- Keys that need each of the notations. -/
def awkward : Preferences :=
  ofList [("plain", 1), ("", 0), ("/sys/led", Int64.minValue), ("a\"b\\", -7),
    ("'\"", 2), ("line\nend\x07", Int64.maxValue)]

theorem awkward_read_back :
    awkward.document = "[values]\n\"\" = 0\n\"'\\\"\" = 2\n" ++
        "\"/sys/led\" = -9223372036854775808\n'a\"b\\' = -7\n" ++
        "\"line\\nend\\u0007\" = 9223372036854775807\nplain = 1\n" ∧
      ofDocument? awkward.document = some awkward ∧
      (ofContent (some awkward.document.toUTF8)).get? "a\"b\\" = some (-7) := by
  obtain ⟨preferences, hunique, -, -, hdocument, hcontent, -⟩ := format_lossless awkward.finite_keys
  obtain rfl : awkward = preferences := (hunique awkward).mp fun _ => rfl
  exact ⟨by decide +kernel, hdocument, by rw [hcontent]; decide +kernel⟩

end Preferences

end KernelControls
