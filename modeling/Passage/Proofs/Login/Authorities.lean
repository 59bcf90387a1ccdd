import Passage.Tls.Settings

namespace Passage
namespace Pem

/-- The lines of a text; a carriage return ends one as well. -/
def linesOf (text : String) : List (List Char) :=
  (Text.splitAll '\n' text.toList).flatMap (Text.splitAll '\r')

/-- A line that opens a section with this label. -/
def Begins (line label : List Char) : Prop :=
  beginMark <+: line ∧ label? line = some label

/-- A line that closes a section with this label. What stands behind the dashes does not count. -/
def Ends (line label : List Char) : Prop :=
  "-----END ".toList ++ label ++ "-----".toList <+: line

/-- What stands behind the line that opens a section, up to the line that closes it: the label under
which it is closed, and the text in between. Another BEGIN line changes the label and nothing else. -/
inductive Block : List Char → List (List Char) → List Char → List Char → Prop where
  | closed {label line : List Char} (ends : Ends line label) : Block label [line] label []
  | held {label line last text : List Char} {lines : List (List Char)} (plain : ¬ beginMark <+: line)
      (opened : ¬ Ends line label) (rest : Block label lines last text) :
      Block label (line :: lines) last (line ++ text)
  | relabelled {label line again last text : List Char} {lines : List (List Char)}
      (begins : Begins line again) (rest : Block again lines last text) :
      Block label (line :: lines) last text

/-- A file without a malformed section, and the sections that are taken from it. -/
inductive File : List (List Char) → List Section → Prop where
  | done : File [] []
  | between {line : List Char} {lines : List (List Char)} {sections : List Section}
      (plain : ¬ beginMark <+: line) (rest : File lines sections) : File (line :: lines) sections
  | taken {line label last text : List Char} {block lines : List (List Char)} {body : List UInt8}
      {sections : List Section} (begins : Begins line label) (inside : Block label block last text)
      (known : String.ofList last ∈ knownLabels) (decoded : decode text = some body)
      (rest : File lines sections) :
      File (line :: block ++ lines) (⟨String.ofList last, body⟩ :: sections)
  | passed {line label last text : List Char} {block lines : List (List Char)}
      {sections : List Section} (begins : Begins line label) (inside : Block label block last text)
      (foreign : String.ofList last ∉ knownLabels) (rest : File lines sections) :
      File (line :: block ++ lines) sections

theorem Ends.plain {line label : List Char} (h : Ends line label) : ¬ beginMark <+: line := by
  intro begins
  unfold Ends at h
  rw [List.append_assoc] at h
  have short : "-----END ".toList <+: line := (List.prefix_append _ _).trans h
  have inside := List.prefix_of_prefix_length_le short begins (by decide +kernel)
  revert inside
  decide +kernel

section

variable {line label held : List Char} {opened : Option (List Char)} {lines : List (List Char)}

theorem readLines_begins (h : Begins line label) :
    readLines opened held (line :: lines) = readLines (some label) held lines := by
  rw [readLines.eq_def]
  dsimp only
  rw [if_pos (List.isPrefixOf_iff_prefix.mpr h.1), h.2]

/-- A BEGIN line without a label cannot be read. -/
theorem exists_begins (opening : beginMark <+: line) {sections : List Section}
    (h : readLines opened held (line :: lines) = some sections) : ∃ label, Begins line label := by
  rw [readLines.eq_def] at h
  dsimp only at h
  rw [if_pos (List.isPrefixOf_iff_prefix.mpr opening)] at h
  cases named : label? line with
  | none =>
    rw [named] at h
    cases h
  | some label => exact ⟨label, opening, named⟩

theorem readLines_between (plain : ¬ beginMark <+: line) :
    readLines none held (line :: lines) = readLines none held lines := by
  rw [readLines, if_neg (mt List.isPrefixOf_iff_prefix.mp plain)]

theorem readLines_held (plain : ¬ beginMark <+: line) (opened' : ¬ Ends line label) :
    readLines (some label) held (line :: lines) = readLines (some label) (held ++ line) lines := by
  rw [readLines, if_neg (mt List.isPrefixOf_iff_prefix.mp plain),
    if_neg (mt List.isPrefixOf_iff_prefix.mp opened')]

def take (label text : List Char) (rest : Option (List Section)) : Option (List Section) :=
  if String.ofList label ∈ knownLabels then
    (decode text).bind fun body => rest.map (⟨String.ofList label, body⟩ :: ·)
  else rest

theorem readLines_closed (ends : Ends line label) :
    readLines (some label) held (line :: lines) = take label held (readLines none [] lines) := by
  rw [readLines, if_neg (mt List.isPrefixOf_iff_prefix.mp ends.plain),
    if_pos (List.isPrefixOf_iff_prefix.mpr ends), take]
  split
  · cases decode held <;> rfl
  · rfl

end

theorem Block.readLines {label last text : List Char} {block : List (List Char)}
    (h : Block label block last text) (before : List Char) (lines : List (List Char)) :
    readLines (some label) before (block ++ lines) =
      take last (before ++ text) (readLines none [] lines) := by
  induction h generalizing before with
  | closed ends => rw [List.singleton_append, readLines_closed ends, List.append_nil]
  | held plain opened rest ih =>
    rw [List.cons_append, readLines_held plain opened, ih, List.append_assoc]
  | relabelled begins rest ih => rw [List.cons_append, readLines_begins begins, ih]

/-- If an open section can be read, it is closed somewhere. -/
theorem exists_block {label before : List Char} {lines : List (List Char)} {sections : List Section}
    (h : readLines (some label) before lines = some sections) :
    ∃ block rest last text, Block label block last text ∧ lines = block ++ rest := by
  induction lines generalizing label before with
  | nil => cases h
  | cons line lines ih =>
    by_cases opening : beginMark <+: line
    · obtain ⟨again, begins⟩ := exists_begins opening h
      rw [readLines_begins begins] at h
      obtain ⟨block, rest, last, text, inside, rfl⟩ := ih h
      exact ⟨_, rest, last, text, .relabelled begins inside, rfl⟩
    · by_cases ends : Ends line label
      · exact ⟨_, lines, _, _, .closed ends, rfl⟩
      · rw [readLines_held opening ends] at h
        obtain ⟨block, rest, last, text, inside, rfl⟩ := ih h
        exact ⟨_, rest, last, _, .held opening ends inside, rfl⟩

theorem File.readLines {lines : List (List Char)} {sections : List Section} (h : File lines sections) :
    readLines none [] lines = some sections := by
  induction h with
  | done => rfl
  | between plain rest ih => rw [readLines_between plain, ih]
  | taken begins inside known decoded rest ih =>
    rw [List.cons_append, readLines_begins begins, inside.readLines, ih, take, if_pos known,
      List.nil_append, decoded]
    rfl
  | passed begins inside foreign rest ih =>
    rw [List.cons_append, readLines_begins begins, inside.readLines, ih, take, if_neg foreign]

theorem file_of_readLines {lines : List (List Char)} {sections : List Section}
    (h : readLines none [] lines = some sections) : File lines sections := by
  match lines with
  | [] =>
    cases h
    exact .done
  | line :: lines =>
    by_cases opening : beginMark <+: line
    · obtain ⟨label, begins⟩ := exists_begins opening h
      rw [readLines_begins begins] at h
      obtain ⟨block, rest, last, text, inside, whole⟩ := exists_block h
      -- A section takes up several lines at once, so the recursion is on their number.
      have shorter : rest.length < lines.length + 1 := by
        rw [whole, List.length_append]
        omega
      rw [whole, inside.readLines, List.nil_append, take] at h
      rw [whole]
      split at h
      · rename_i known
        obtain ⟨body, decoded, h⟩ := Option.bind_eq_some_iff.mp h
        obtain ⟨later, read, rfl⟩ := Option.map_eq_some_iff.mp h
        exact .taken begins inside known decoded (file_of_readLines read)
      · rename_i foreign
        exact .passed begins inside foreign (file_of_readLines h)
    · rw [readLines_between opening] at h
      exact .between opening (file_of_readLines h)
termination_by lines.length

/-- What is read from a text is what its lines say. -/
theorem read_eq_some_iff {text : String} {sections : List Section} :
    read text = some sections ↔ File (linesOf text) sections :=
  ⟨file_of_readLines, File.readLines⟩

/-- There are certificates, and none of them can be parsed. -/
def Barren (parsable : List UInt8 → Bool) (sections : List Section) : Prop :=
  certificates sections ≠ [] ∧ ∀ body ∈ certificates sections, parsable body = false

end Pem

namespace Tls

/-- The files of a disk, read for their sections. A byte beyond ASCII may stand in the text as any
character beyond ASCII. -/
def Files.of (disk : String → Except IoFault String) : Files :=
  fun path => (disk path).map Pem.read

variable {parsable : List UInt8 → Bool} {disk : String → Except IoFault String} {path text : String}

theorem Settings.build_unreadable {fault : IoFault} (absent : disk path = .error fault) :
    build parsable (Files.of disk) (some path) false = .error (.caUnreadable path fault) := by
  rw [build, Roots.load, Files.of, absent]
  rfl

theorem Settings.build_malformed (held : disk path = .ok text)
    (malformed : ∀ sections, ¬ Pem.File (Pem.linesOf text) sections) :
    build parsable (Files.of disk) (some path) false = .error (.caMalformed path) := by
  have unread : Pem.read text = none :=
    Option.eq_none_iff_forall_ne_some.mpr fun sections read =>
      malformed sections (Pem.read_eq_some_iff.mp read)
  rw [build, Roots.load, Files.of, held, Except.map, unread]
  rfl

/-- A file is accepted if there is a certificate in it, whether that can be parsed or not. -/
theorem Settings.build_file {sections : List Pem.Section} (held : disk path = .ok text)
    (file : Pem.File (Pem.linesOf text) sections) :
    build parsable (Files.of disk) (some path) false =
      if Pem.certificates sections = [] then .error (.caEmpty path)
      else .ok ⟨some path, false, .custom ((Pem.certificates sections).filter parsable)⟩ := by
  rw [build, if_neg Bool.false_ne_true, Roots.load, Files.of, held, Except.map,
    Pem.read_eq_some_iff.mpr file]
  simp only [List.isEmpty_iff]
  split <;> rfl

/-- An accepted file leaves some authority, unless it is a file with certificates none of which can be
parsed. -/
theorem Settings.build_kept_iff :
    (∀ settings, build parsable (Files.of disk) (some path) false = .ok settings →
        ∃ kept, settings.roots = .custom kept ∧ kept ≠ []) ↔
      ¬ ∃ text sections, disk path = .ok text ∧ Pem.File (Pem.linesOf text) sections ∧
        Pem.Barren parsable sections := by
  constructor
  · rintro lawful ⟨text, sections, held, file, found, unparsable⟩
    have built : build parsable (Files.of disk) (some path) false = _ := build_file held file
    rw [if_neg found] at built
    obtain ⟨kept, he, nonempty⟩ := lawful _ built
    cases he
    apply nonempty
    simpa using unparsable
  · intro fertile settings ok
    cases held : disk path with
    | error fault => cases (build_unreadable held).symm.trans ok
    | ok text =>
      by_cases wellFormed : ∃ sections, Pem.File (Pem.linesOf text) sections
      · obtain ⟨sections, file⟩ := wellFormed
        have built := (build_file held file).symm.trans ok
        split at built
        · cases built
        · rename_i found
          cases built
          refine ⟨_, rfl, fun none => fertile ⟨text, sections, held, file, found, ?_⟩⟩
          simpa using none
      · cases (build_malformed held (not_exists.mp wellFormed)).symm.trans ok

/-- What a file of authorities comes to, whatever it holds. It is refused if it cannot be read, if a
section of it is malformed or if there is no certificate in it; otherwise the certificates that can be
parsed are the authorities. So an accepted file leaves some authority, unless it is a file with
certificates none of which can be parsed. -/
theorem Settings.build_custom (parsable : List UInt8 → Bool) (disk : String → Except IoFault String)
    (path : String) :
    let built := build parsable (Files.of disk) (some path) false
    (∀ fault, disk path = .error fault → built = .error (.caUnreadable path fault)) ∧
    (∀ text, disk path = .ok text →
      ((∀ sections, ¬ Pem.File (Pem.linesOf text) sections) → built = .error (.caMalformed path)) ∧
      ∀ sections, Pem.File (Pem.linesOf text) sections →
        (Pem.certificates sections = [] → built = .error (.caEmpty path)) ∧
        (Pem.certificates sections ≠ [] →
          built = .ok ⟨some path, false, .custom ((Pem.certificates sections).filter parsable)⟩)) ∧
    ((∀ settings, built = .ok settings → ∃ kept, settings.roots = .custom kept ∧ kept ≠ []) ↔
      ¬ ∃ text sections, disk path = .ok text ∧ Pem.File (Pem.linesOf text) sections ∧
        Pem.Barren parsable sections) := by
  intro built
  refine ⟨fun fault => build_unreadable, ?_, build_kept_iff⟩
  intro text held
  refine ⟨build_malformed held, fun sections file => ⟨?empty, ?found⟩⟩
  case empty =>
    intro none
    exact (build_file held file).trans (if_pos none)
  case found =>
    intro found
    exact (build_file held file).trans (if_neg found)

def mixed : String :=
  "-----BEGIN PUBLIC KEY-----\nAAAA\n-----END PUBLIC KEY-----\n" ++
    "-----BEGIN CERTIFICATE-----\nAAAA\n-----END CERTIFICATE-----\n\nan authority\n" ++
    "-----BEGIN CERTIFICATE-----\nMA\nAA\n-----END CERTIFICATE-----\n"

theorem Settings.build_custom_mixed :
    build (fun body => body.head? = some 0x30) (Files.of fun _ => .ok mixed) (some "ca.pem") false =
      .ok ⟨some "ca.pem", false, .custom [[0x30, 0, 0]]⟩ := by
  have read : Pem.read mixed = some
      [⟨"PUBLIC KEY", [0, 0, 0]⟩, ⟨"CERTIFICATE", [0, 0, 0]⟩, ⟨"CERTIFICATE", [0x30, 0, 0]⟩] := by
    decide +kernel
  have outcome := (build_custom (fun body => body.head? = some 0x30) (fun _ => .ok mixed) "ca.pem").2.1
  exact ((outcome mixed rfl).2 _ (Pem.read_eq_some_iff.mp read)).2 (by decide)

/-- A file with a certificate that is no sequence is accepted, and nobody is left to vouch. -/
theorem Settings.build_barren :
    build (fun body => body.head? = some 0x30)
      (Files.of fun _ => .ok "-----BEGIN CERTIFICATE-----\nAAAA\n-----END CERTIFICATE-----\n")
      (some "ca.pem") false = .ok ⟨some "ca.pem", false, .custom []⟩ := by
  have read : Pem.read "-----BEGIN CERTIFICATE-----\nAAAA\n-----END CERTIFICATE-----\n" =
      some [⟨"CERTIFICATE", [0, 0, 0]⟩] := by decide +kernel
  have built := @build_file (fun body => body.head? = some 0x30) (fun _ => .ok _) "ca.pem" _ _ rfl
    (Pem.read_eq_some_iff.mp read)
  exact built.trans (if_neg (by decide))

end Tls
end Passage
