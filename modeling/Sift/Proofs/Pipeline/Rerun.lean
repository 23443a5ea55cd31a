import Sift.Proofs.Json.Codec
import Sift.Proofs.Pipeline.Modes

/-! # Runs on their own output

A run that lists the kept records in JSON prints a text of the list. The verdict on a record depends on the
record alone, so that a second run of the same command line on that text, if it is read back, keeps all of
them and prints the same text.
-/
namespace Sift

/-- Of what is kept everything is kept again. -/
theorem matchingBy_kept {verdict : Json → Except FilterError Bool} {polarity : Polarity} {records : List Json}
    {kept : List (Json × Nat)} (h : matchingBy verdict polarity records = .ok kept) :
    ∃ again, matchingBy verdict polarity (kept.map Prod.fst) = .ok again ∧
      again.map Prod.fst = kept.map Prod.fst := by
  obtain ⟨hkept, hok⟩ := verdict_ok_of_matchingBy h
  have hkeeps : ∀ record ∈ kept.map Prod.fst, polarity.keeps (verdict record == .ok true) = true := by
    intro record hmem
    obtain ⟨r, hr, rfl⟩ := List.mem_map.mp hmem
    rw [hkept] at hr
    exact (List.mem_filter.mp hr).2
  have hnone : firstError? verdict (kept.map Prod.fst) = none := by
    cases hfirst : firstError? verdict (kept.map Prod.fst) with
    | none => rfl
    | some e =>
      obtain ⟨record, hmem, he⟩ := exists_of_firstError? hfirst
      obtain ⟨b, hb⟩ := hok record ((sublist_of_matchingBy h).mem hmem)
      cases hb.symm.trans he
  have hall : keptBy verdict polarity (kept.map Prod.fst).zipIdx = (kept.map Prod.fst).zipIdx :=
    List.filter_eq_self.mpr fun r hr => hkeeps r.1 (List.fst_mem_of_mem_zipIdx hr)
  exact ⟨_, matchingBy_of_firstError?_eq_none hnone polarity, by rw [hall, List.zipIdx_map_fst]⟩

namespace Run

/-- What records are read from: a file, or standard input. -/
def recordsSource (inputs : Inputs) : Option String → Except String ByteArray
  | some path => inputs.file path
  | none => inputs.stdin

theorem recordsText_of_source {inputs : Inputs} {path : Option String} {text : String}
    (h : recordsSource inputs path = .ok text.toUTF8) : recordsText inputs path = .ok text := by
  cases path with
  | some path =>
    have hfile : inputs.file path = .ok text.toUTF8 := h
    rw [recordsText, hfile, textOf_toUTF8]
    rfl
  | none =>
    have hstdin : inputs.stdin = .ok text.toUTF8 := h
    rw [recordsText, hstdin, textOf_toUTF8]
    rfl

theorem loadRecords_eq_ok_iff {L : Libraries} {inputs : Inputs} {path : Option String} {records : Json} :
    loadRecords L inputs path = .ok records ↔
      ∃ text, recordsText inputs path = .ok text ∧ L.json.parse text = .ok records := by
  unfold loadRecords
  cases recordsText inputs path with
  | error e => exact ⟨nofun, nofun⟩
  | ok text =>
    simp only [Except.ok.injEq, exists_eq_left', bind, Except.bind, mapError_eq_ok_iff]

end Run

namespace Arguments
open Run

/-- A run that lists the kept records in JSON prints the text of a list of records on which the same
command line keeps everything. -/
theorem exists_kept_of_run {L : Libraries} {a : Arguments} {inputs : Inputs} {text : String}
    (hformat : a.format = .json) (hmode : Mode.ofArguments a = .all) (h : a.run L inputs = .ok text) :
    ∃ conditions polarity records kept, a.setting L inputs = .ok (conditions, polarity) ∧
      loadRecords L inputs a.recordsFile? = .ok records ∧ kept.Sublist records.items ∧
      text = L.json.pretty (.array kept) ++ "\n" ∧
      filtered L conditions polarity .all .json (.array kept) = .ok text := by
  obtain ⟨conditions, polarity, records, hsetting, hrecords, hout⟩ := run_eq_ok_iff.mp h
  have hnamed := allNamed_of_setting hsetting
  rw [hmode, hformat, filtered_all hnamed] at hout
  obtain ⟨kept, hkept, rfl⟩ := map_eq_ok_iff.mp hout
  obtain ⟨again, hagain, hsame⟩ := matchingBy_kept hkept
  refine ⟨conditions, polarity, records, kept.map Prod.fst, hsetting, hrecords, sublist_of_matchingBy hkept,
    rfl, ?_⟩
  rw [filtered_all hnamed, Json.items]
  exact map_eq_ok_iff.mpr ⟨again, hagain, by rw [hsame]⟩

/-- A run that lists the kept records in JSON prints the same text again when it is given that text for its
records, be it in a file or on standard input, if lists of its records are read back from their texts. -/
theorem run_own_output (L : Libraries) (a : Arguments) (inputs : Inputs) (text : String)
    (hformat : a.format = .json) (hfirst : a.first = false) (hcount : a.count = false)
    (h : a.run L inputs = .ok text)
    (hreads : ∀ records kept, loadRecords L inputs a.recordsFile? = .ok records →
      kept.Sublist records.items → L.json.ReadsBack (.array kept))
    (records : Option String) (inputs' : Inputs)
    (hconfig : loadConditions L inputs' a.config = loadConditions L inputs a.config)
    (hrecords : recordsSource inputs' (Arguments.recordsFile? { a with records := records }) =
      .ok text.toUTF8) :
    Arguments.run { a with records := records } L inputs' = .ok text := by
  have hmode : Mode.ofArguments a = .all := by rw [Mode.ofArguments, hfirst, hcount]; rfl
  obtain ⟨conditions, polarity, before, kept, hsetting, hbefore, hsublist, htext, hfiltered⟩ :=
    exists_kept_of_run hformat hmode h
  have hparse : L.json.parse text = .ok (.array kept) := htext ▸ hreads before kept hbefore hsublist
  have hsetting' : setting { a with records := records } L inputs' = .ok (conditions, polarity) := by
    rw [← hsetting, setting, setting, hconfig]
    rfl
  have hload := loadRecords_eq_ok_iff.mpr ⟨text, recordsText_of_source hrecords, hparse⟩
  have hmode' : Mode.ofArguments { a with records := records } = .all := hmode
  have hformat' : format { a with records := records } = .json := hformat
  exact run_eq_ok_iff.mpr ⟨conditions, polarity, .array kept, hsetting', hload,
    by rw [hmode', hformat', hfiltered]⟩

/-- The program reads back the lists of records that it prints. -/
theorem readsBack_of_loadRecords {L : Libraries} (hcodec : L.json = Json.codec) {inputs : Inputs}
    {path : Option String} {records : Json} {kept : List Json} (h : loadRecords L inputs path = .ok records)
    (hkept : kept.Sublist records.items) : L.json.ReadsBack (.array kept) := by
  obtain ⟨text, -, hparse⟩ := loadRecords_eq_ok_iff.mp h
  rw [hcodec] at hparse ⊢
  exact Json.codec_readsBack_of_sublist hparse hkept

/-- The records above one, from a file first and then from standard input. -/
theorem run_own_output_above :
    let L := Libraries.bundled
    let a : Arguments := { empty with records := some "in.json", expressions := ["|>|1"] }
    let inputs : Inputs := ⟨fun _ => .ok "[1, 2.50, 3]".toUTF8, .ok .empty⟩
    let text := "[\n  2.5,\n  3\n]\n"
    let again : Inputs := ⟨fun path => .error path, .ok text.toUTF8⟩
    a.format = .json ∧ a.first = false ∧ a.count = false ∧ a.run L inputs = .ok text ∧
    (∀ records kept, loadRecords L inputs a.recordsFile? = .ok records → kept.Sublist records.items →
      L.json.ReadsBack (.array kept)) ∧
    Arguments.run { a with records := none } L again = .ok text := by
  intro L a inputs text again
  have hrun : a.run L inputs = .ok text := by decide +kernel
  have hreads : ∀ records kept, loadRecords L inputs a.recordsFile? = .ok records →
      kept.Sublist records.items → L.json.ReadsBack (.array kept) :=
    fun _ _ hload hkept => readsBack_of_loadRecords rfl hload hkept
  exact ⟨rfl, rfl, rfl, hrun, hreads,
    run_own_output L a inputs text rfl rfl rfl hrun hreads none again rfl rfl⟩

end Arguments
end Sift
