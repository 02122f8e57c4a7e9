import FlashBench.Proofs.Storage.Walk
import FlashBench.Proofs.Upkeep.LicenseHeader
import FlashBench.Proofs.Words
import FlashBench.Upkeep.HeaderTask
import Mathlib.Data.List.Induction

/-!
# Adding the headers of a project

Which files a project must have headers in is said by location alone (`Candidate`), and from there
what the tasks on headers come to.

* **`mem_missing_iff`, `missingHeaders_error_iff`**: a look at the project finds the candidates
  without a header, and fails exactly if a candidate is no text.
* **`headersAdded`**: putting headers in front changes the files it is asked to and no other.
* **`fixHeaders_exact`**: adding headers is complete, minimal and idempotent, and changes nothing at
  all if it fails.
-/

namespace FlashBench.Upkeep

variable {files after : FileTree} {root location : Location} {style : CommentStyle}
  {bytes : ByteArray} {text : String} {missing : List Headerless} {file : Headerless}
  {placed : Placed}

/-! ## Files that must carry the header -/

/-- A file that must carry the header: it lies at or below the root, its name says how its comments
are written, and no directory from the root down to it is one that is not looked into. The root's
own name counts as any other. -/
structure Candidate (files : FileTree) (root location : Location) (style : CommentStyle)
    (bytes : ByteArray) : Prop where
  below : root <+: location
  found : files.root.find? location = some (.file bytes)
  styled : CommentStyle.ofName? (location.getLast?.getD "") = some style
  seen : ∀ directory, root <+: directory → directory <+: location → directory ≠ location →
    directory.getLast?.getD "" ∉ headerSkips

/-- **The walk comes past the candidates,** and past no other file of a name that is theirs. -/
theorem candidate_iff (hdistinct : files.root.Distinct) :
    Candidate files root location style bytes ↔
      (⟨location, .file bytes⟩ : Placed) ∈ files.walk skipsHeaders root ∧
        CommentStyle.ofName? (location.getLast?.getD "") = some style := by
  rw [FileTree.mem_walk_iff hdistinct]
  constructor
  · intro h
    refine ⟨⟨h.below, h.found, fun front way hroot hfront hway => ?_⟩, h.styled⟩
    by_cases hhere : front = location
    · rw [hhere, h.found] at hway
      obtain rfl := Option.some.inj hway
      simp [skipsHeaders, FileNode.isDir]
    · simp [skipsHeaders, h.seen front hroot hfront hhere]
  · rintro ⟨⟨hbelow, hfound, hkept⟩, hstyled⟩
    refine ⟨hbelow, hfound, hstyled, fun front hroot hfront hne hskipped => ?_⟩
    obtain ⟨way, hway, hdir⟩ := FileNode.exists_dir_above hfound hfront hne
    have hkeep := hkept front way hroot hfront hway
    simp [skipsHeaders, hdir, hskipped] at hkeep

/-! ## Looking at a project -/

section Traversal

variable {ε α β : Type} {f : α → Except ε β}

/-- All of a list is looked at if no look fails. -/
theorem mapM_eq_ok_iff {xs : List α} {ys : List β} :
    xs.mapM f = .ok ys ↔ xs.map f = ys.map Except.ok := by
  induction xs generalizing ys with
  | nil => simp [pure, Except.pure, eq_comm]
  | cons x xs ih =>
      rw [List.mapM_cons, List.map_cons]
      cases hx : f x with
      | error error => cases ys <;> simp [bind, Except.bind]
      | ok y =>
          cases hxs : xs.mapM f with
          | error error =>
              cases ys with
              | nil => simp [bind, Except.bind]
              | cons z zs => simp [bind, Except.bind, ← ih, hxs]
          | ok rest =>
              have hrest := ih.mp hxs
              cases ys with
              | nil => simp [bind, Except.bind, pure, Except.pure]
              | cons z zs => simp [bind, Except.bind, pure, Except.pure, ← ih, hxs]

/-- A look that fails ends the whole. -/
theorem mapM_error_iff {xs : List α} :
    (∃ error, xs.mapM f = .error error) ↔ ∃ x ∈ xs, ∃ error, f x = .error error := by
  induction xs with
  | nil => simp [pure, Except.pure]
  | cons x xs ih =>
      simp only [List.mapM_cons, List.mem_cons, exists_eq_or_imp, ← ih]
      cases hx : f x with
      | error error => simp [bind, Except.bind]
      | ok y => cases xs.mapM f <;> simp [bind, Except.bind, pure, Except.pure]

end Traversal

theorem fromUTF8?_eq_some_iff : String.fromUTF8? bytes = some text ↔ bytes = text.toUTF8 := by
  unfold String.fromUTF8?
  constructor
  · intro h
    split at h
    · rw [← Option.some.inj h]
      rfl
    · cases h
  · rintro rfl
    simp [String.fromUTF8, text.isValidUTF8]

theorem fromUTF8?_toUTF8 (text : String) : String.fromUTF8? text.toUTF8 = some text :=
  fromUTF8?_eq_some_iff.mpr rfl

/-- What is found at a node. -/
theorem headerlessAt_eq_some_iff :
    headerlessAt placed = .ok (some file) ↔
      CommentStyle.ofName? placed.name = some file.style ∧
        placed = ⟨file.location, .file file.text.toUTF8⟩ ∧
        hasHeader file.style file.text = false := by
  obtain ⟨location, node⟩ := placed
  obtain ⟨place, style, text⟩ := file
  unfold headerlessAt
  cases hstyle : CommentStyle.ofName? (Placed.name ⟨location, node⟩) with
  | none => simp
  | some found =>
      cases node with
      | dir entries => simp
      | file bytes =>
          simp only [Placed.mk.injEq, FileNode.file.injEq, ← fromUTF8?_eq_some_iff]
          cases hbytes : String.fromUTF8? bytes with
          | none => simp
          | some written =>
              by_cases hheader : hasHeader found written = true
              · simp only [hheader, if_true, Option.some.injEq]
                refine ⟨nofun, ?_⟩
                rintro ⟨rfl, ⟨_, rfl⟩, hlacks⟩
                rw [hheader] at hlacks
                cases hlacks
              · simp only [hheader, Bool.false_eq_true, if_false, Except.ok.injEq, Option.some.injEq,
                  Headerless.mk.injEq]
                constructor
                · rintro ⟨rfl, rfl, rfl⟩
                  exact ⟨rfl, ⟨rfl, rfl⟩, Bool.eq_false_iff.mpr hheader⟩
                · rintro ⟨rfl, ⟨rfl, rfl⟩, _⟩
                  exact ⟨rfl, rfl, rfl⟩

theorem headerlessAt_error_iff :
    (∃ error, headerlessAt placed = .error error) ↔
      ∃ style bytes, CommentStyle.ofName? placed.name = some style ∧
        placed.node = .file bytes ∧ String.fromUTF8? bytes = none := by
  obtain ⟨location, node⟩ := placed
  unfold headerlessAt
  cases hstyle : CommentStyle.ofName? (Placed.name ⟨location, node⟩) with
  | none => simp
  | some found =>
      cases node with
      | dir entries => simp
      | file bytes => cases hbytes : String.fromUTF8? bytes <;> simp [hbytes]

theorem missingHeaders_eq_ok_iff :
    missingHeaders files root = .ok missing ↔
      ∃ looks : List (Option Headerless),
        (files.walk skipsHeaders root).map headerlessAt = looks.map .ok ∧
          looks.filterMap id = missing := by
  simp only [← mapM_eq_ok_iff]
  unfold missingHeaders
  rw [Word.bind_eq_ok_iff]
  refine exists_congr fun looks => and_congr_right fun _ => ?_
  exact ⟨Except.ok.inj, congrArg Except.ok⟩

/-- **What a look at the project finds:** the candidates without a header. -/
theorem mem_missing_iff (hdistinct : files.root.Distinct)
    (hmissing : missingHeaders files root = .ok missing) :
    file ∈ missing ↔
      Candidate files root file.location file.style file.text.toUTF8 ∧
        hasHeader file.style file.text = false := by
  obtain ⟨looks, hlooks, rfl⟩ := missingHeaders_eq_ok_iff.mp hmissing
  have hlook : file ∈ looks.filterMap id ↔
      ∃ placed ∈ files.walk skipsHeaders root, headerlessAt placed = .ok (some file) := by
    rw [← List.mem_map, hlooks]
    simp
  rw [hlook, candidate_iff hdistinct]
  constructor
  · rintro ⟨placed, hplaced, hfound⟩
    obtain ⟨hstyle, rfl, hlacks⟩ := headerlessAt_eq_some_iff.mp hfound
    exact ⟨⟨hplaced, hstyle⟩, hlacks⟩
  · rintro ⟨⟨hplaced, hstyle⟩, hlacks⟩
    exact ⟨_, hplaced, headerlessAt_eq_some_iff.mpr ⟨hstyle, rfl, hlacks⟩⟩

/-- **A look at the project fails** exactly if a candidate is no text. -/
theorem missingHeaders_error_iff (hdistinct : files.root.Distinct) :
    (∃ error, missingHeaders files root = .error error) ↔
      ∃ location style bytes, Candidate files root location style bytes ∧
        String.fromUTF8? bytes = none := by
  have hlook : (∃ error, missingHeaders files root = .error error) ↔
      ∃ error, (files.walk skipsHeaders root).mapM headerlessAt = .error error := by
    unfold missingHeaders
    cases (files.walk skipsHeaders root).mapM headerlessAt <;>
      simp [bind, Except.bind, pure, Except.pure]
  simp only [hlook, mapM_error_iff, headerlessAt_error_iff, candidate_iff hdistinct]
  constructor
  · rintro ⟨⟨location, node⟩, hplaced, style, bytes, hstyle, rfl, hbytes⟩
    exact ⟨location, style, bytes, ⟨hplaced, hstyle⟩, hbytes⟩
  · rintro ⟨location, style, bytes, ⟨hplaced, hstyle⟩, hbytes⟩
    exact ⟨_, hplaced, style, bytes, hstyle, rfl, hbytes⟩

/-! ## Putting headers in front -/

/-- The tree `after` is `files` with headers in front of the files of a list. -/
structure HeadersAdded (files : FileTree) (missing : List Headerless) (after : FileTree) :
    Prop where
  distinct : after.root.Distinct
  added : ∀ file ∈ missing,
    after.root.find? file.location = some (.file (withHeader file.style file.text).toUTF8)
  others : ∀ location, location ∉ missing.map (·.location) →
    after.root.listing? location = files.root.listing? location

/-- A file is still a file, whether it was given a header or not. -/
theorem HeadersAdded.there (h : HeadersAdded files missing after) {old : ByteArray}
    (hold : files.root.find? location = some (.file old)) :
    ∃ now, after.root.find? location = some (.file now) := by
  by_cases hmem : location ∈ missing.map (·.location)
  · obtain ⟨file, hfile, rfl⟩ := List.mem_map.mp hmem
    exact ⟨_, h.added file hfile⟩
  · rw [← FileNode.listing?_eq_file_iff, ← h.others location hmem] at hold
    exact ⟨old, FileNode.listing?_eq_file_iff.mp hold⟩

/-- One more header is added, to a file that is there and was not in the list with another text. -/
theorem HeadersAdded.concat (h : HeadersAdded files missing after) {old : ByteArray}
    (hold : files.root.find? file.location = some (.file old))
    (hone : ∀ other ∈ missing, other.location = file.location → other = file) :
    HeadersAdded files (missing ++ [file]) (addHeader after file) := by
  obtain ⟨now, hnow⟩ := h.there hold
  have hwrite := FileNode.listing?_put hnow (withHeader file.style file.text).toUTF8
  constructor
  · exact h.distinct.put hnow _
  · intro other hmem
    rw [← FileNode.listing?_eq_file_iff]
    refine (hwrite other.location).trans ?_
    by_cases hsame : other.location = file.location
    · have hother : other = file := by
        rcases List.mem_append.mp hmem with hmem | hmem
        · exact hone other hmem hsame
        · exact List.mem_singleton.mp hmem
      rw [if_pos hsame, hother]
    · have hbefore : other ∈ missing := by
        rcases List.mem_append.mp hmem with hmem | hmem
        · exact hmem
        · exact absurd (congrArg _ (List.mem_singleton.mp hmem)) hsame
      rw [if_neg hsame]
      exact FileNode.listing?_eq_file_iff.mpr (h.added other hbefore)
  · intro location hmem
    simp only [List.map_append, List.mem_append, not_or, List.map_cons, List.map_nil,
      List.mem_singleton] at hmem
    refine (hwrite location).trans ?_
    rw [if_neg hmem.2]
    exact h.others location hmem.1

/-- **Headers are added** to the files of the list and nothing else changes, if the files are there
and none is in the list with two texts. -/
theorem headersAdded (hdistinct : files.root.Distinct)
    (hthere : ∀ file ∈ missing, ∃ old, files.root.find? file.location = some (.file old))
    (hone : ∀ file ∈ missing, ∀ other ∈ missing, file.location = other.location → file = other) :
    HeadersAdded files missing (missing.foldl addHeader files) := by
  induction missing using List.reverseRecOn with
  | nil => exact ⟨hdistinct, by simp, fun _ _ => rfl⟩
  | append_singleton front last ih =>
      have hfront := ih (fun file hmem => hthere file (List.mem_append_left _ hmem))
        fun file hmem other hother => hone file (List.mem_append_left _ hmem) other
          (List.mem_append_left _ hother)
      obtain ⟨old, hold⟩ := hthere last (by simp)
      rw [List.foldl_append]
      exact hfront.concat hold fun other hmem =>
        hone other (List.mem_append_left _ hmem) last (by simp)

/-- A candidate of the tree after it was given its header, or is the candidate it was. -/
theorem HeadersAdded.of_candidate (h : HeadersAdded files missing after)
    (hcandidate : Candidate after root location style bytes) :
    (∃ file ∈ missing, file.location = location ∧
      bytes = (withHeader file.style file.text).toUTF8) ∨
    (location ∉ missing.map (·.location) ∧ Candidate files root location style bytes) := by
  have hfound := hcandidate.found
  by_cases hmem : location ∈ missing.map (·.location)
  · obtain ⟨file, hfile, rfl⟩ := List.mem_map.mp hmem
    rw [h.added file hfile] at hfound
    exact .inl ⟨file, hfile, rfl, (FileNode.file.inj (Option.some.inj hfound)).symm⟩
  · rw [← FileNode.listing?_eq_file_iff, h.others location hmem,
      FileNode.listing?_eq_file_iff] at hfound
    exact .inr ⟨hmem, hcandidate.below, hfound, hcandidate.styled, hcandidate.seen⟩

/-- Adding headers makes no candidate unreadable. -/
theorem HeadersAdded.no_error (h : HeadersAdded files missing after)
    (hdistinct : files.root.Distinct) (hmissing : missingHeaders files root = .ok missing) :
    ¬ ∃ error, missingHeaders after root = .error error := by
  intro hfails
  obtain ⟨location, style, bytes, hcandidate, hbytes⟩ :=
    (missingHeaders_error_iff h.distinct).mp hfails
  rcases h.of_candidate hcandidate with ⟨file, _, _, rfl⟩ | ⟨_, hbefore⟩
  · rw [fromUTF8?_toUTF8] at hbytes
    cases hbytes
  · obtain ⟨error, herror⟩ :=
      (missingHeaders_error_iff hdistinct).mpr ⟨location, style, bytes, hbefore, hbytes⟩
    rw [hmissing] at herror
    cases herror

/-- A candidate of the tree after has its header: it was given one, or had one before. -/
theorem HeadersAdded.carried (h : HeadersAdded files missing after)
    (hdistinct : files.root.Distinct) (hmissing : missingHeaders files root = .ok missing)
    (hcandidate : Candidate after root location style text.toUTF8) :
    hasHeader style text = true := by
  rcases h.of_candidate hcandidate with ⟨file, hfile, rfl, hbytes⟩ | ⟨hother, hbefore⟩
  · have hstyled := ((mem_missing_iff hdistinct hmissing).mp hfile).1.styled
    rw [hcandidate.styled] at hstyled
    have htext : text = withHeader file.style file.text := String.toByteArray_inj.mp hbytes
    rw [htext, Option.some.inj hstyled]
    exact hasHeader_withHeader file.style file.text
  · -- without one, the first look would have found it as well
    by_contra hlacks
    rw [Bool.not_eq_true] at hlacks
    have hmem : ⟨location, style, text⟩ ∈ missing :=
      (mem_missing_iff hdistinct hmissing).mpr ⟨hbefore, hlacks⟩
    exact hother (List.mem_map_of_mem hmem)

/-- **After the headers that were missing are added, none is.** -/
theorem HeadersAdded.complete (h : HeadersAdded files missing after)
    (hdistinct : files.root.Distinct) (hmissing : missingHeaders files root = .ok missing) :
    missingHeaders after root = .ok [] := by
  cases hafter : missingHeaders after root with
  | error error => exact absurd ⟨error, hafter⟩ (h.no_error hdistinct hmissing)
  | ok rest =>
      have hnone : rest = [] := by
        rw [List.eq_nil_iff_forall_not_mem]
        intro file hfile
        obtain ⟨hcandidate, hlacks⟩ := (mem_missing_iff h.distinct hafter).mp hfile
        rw [h.carried hdistinct hmissing hcandidate] at hlacks
        cases hlacks
      rw [hnone]

theorem headersAdded_of_missing (hdistinct : files.root.Distinct)
    (hmissing : missingHeaders files root = .ok missing) :
    HeadersAdded files missing (missing.foldl addHeader files) := by
  refine headersAdded hdistinct ?_ ?_
  · intro file hfile
    exact ⟨_, ((mem_missing_iff hdistinct hmissing).mp hfile).1.found⟩
  · intro file hfile other hother hsame
    have hcandidate := ((mem_missing_iff hdistinct hmissing).mp hfile).1
    have hcandidate' := ((mem_missing_iff hdistinct hmissing).mp hother).1
    have hstyle := hcandidate.styled
    have hbytes := hcandidate.found
    rw [hsame, hcandidate'.styled] at hstyle
    rw [hsame, hcandidate'.found] at hbytes
    have htext : other.text = file.text :=
      String.toByteArray_inj.mp (FileNode.file.inj (Option.some.inj hbytes))
    obtain ⟨_, _, _⟩ := file
    obtain ⟨_, _, _⟩ := other
    simp only [Headerless.mk.injEq]
    exact ⟨hsame, (Option.some.inj hstyle).symm, htext.symm⟩

/-! ## The task -/

/-- What adding headers to a project comes to when it ends well, `fixed` being the files that it
reports. -/
structure Fixed (files : FileTree) (root : Location) (fixed : List Headerless) (run : TaskRun) :
    Prop where
  reported : run.lines = "Running: license header fix" ::
    fixed.map fun file => s!"  added license header: {relativePath root file.location}"
  minimal : ∀ file, file ∈ fixed ↔
    Candidate files root file.location file.style file.text.toUTF8 ∧
      hasHeader file.style file.text = false
  complete : missingHeaders run.files root = .ok []
  idempotent : fixHeaders run.files root =
    { lines := ["Running: license header fix"], result := .ok (), files := run.files }
  headed : ∀ file ∈ fixed, ∃ new, Headed file.style file.text new ∧
    run.files.root.find? file.location = some (.file new.toUTF8)
  others : ∀ location, location ∉ fixed.map (·.location) →
    run.files.root.listing? location = files.root.listing? location

theorem fixHeaders_of_error {error : TaskError} (h : missingHeaders files root = .error error) :
    fixHeaders files root =
      { lines := ["Running: license header fix"], result := .error error, files } := by
  unfold fixHeaders
  rw [h]

theorem fixHeaders_of_ok (h : missingHeaders files root = .ok missing) :
    fixHeaders files root =
      { lines := "Running: license header fix" :: missing.map fun file =>
          s!"  added license header: {relativePath root file.location}"
        result := .ok ()
        files := missing.foldl addHeader files } := by
  unfold fixHeaders
  rw [h]

/-- **Adding headers is complete, minimal, idempotent, and safe.** If a file that must carry the
header is no text the task fails and changes no file. If all are texts it ends well. Then exactly the
files that lacked the header were given one, each in front of its former text, every other location
shows what it did, no header is missing, and a second run reports no file and changes nothing. -/
theorem fixHeaders_exact (root : Location) (hdistinct : files.root.Distinct) :
    ((∃ location style bytes, Candidate files root location style bytes ∧
        String.fromUTF8? bytes = none) →
      (∃ error, (fixHeaders files root).result = .error error) ∧
        (fixHeaders files root).files = files) ∧
    ((∀ location style bytes, Candidate files root location style bytes →
        String.fromUTF8? bytes ≠ none) →
      (fixHeaders files root).result = .ok ()) ∧
    ((fixHeaders files root).result = .ok () →
      ∃ fixed, Fixed files root fixed (fixHeaders files root)) := by
  refine ⟨fun hbroken => ?_, fun htexts => ?_, fun hended => ?_⟩
  · obtain ⟨error, herror⟩ := (missingHeaders_error_iff hdistinct).mpr hbroken
    rw [fixHeaders_of_error herror]
    exact ⟨⟨error, rfl⟩, rfl⟩
  · cases hmissing : missingHeaders files root with
    | error error =>
        obtain ⟨location, style, bytes, hcandidate, hbytes⟩ :=
          (missingHeaders_error_iff hdistinct).mp ⟨error, hmissing⟩
        exact absurd hbytes (htexts location style bytes hcandidate)
    | ok missing => rw [fixHeaders_of_ok hmissing]
  · cases hmissing : missingHeaders files root with
    | error error =>
        rw [fixHeaders_of_error hmissing] at hended
        cases hended
    | ok missing =>
        have hadded := headersAdded_of_missing hdistinct hmissing
        have hcomplete := hadded.complete hdistinct hmissing
        rw [fixHeaders_of_ok hmissing]
        refine ⟨missing, rfl, fun file => mem_missing_iff hdistinct hmissing, hcomplete,
          fixHeaders_of_ok hcomplete, fun file hfile => ?_, hadded.others⟩
        exact ⟨_, headed_withHeader file.style file.text, hadded.added file hfile⟩

/-- Two projects: in one some files lack the header, and one that is not looked at is no text; in
the other the only file is no text. -/
def smallProjects : FileTree where
  root := .dir [
    ("work", .dir [
      ("Cargo.toml", .file "[workspace]\n".toUTF8),
      ("src", .dir [("lib.rs", .file "\npub fn f() {}\n".toUTF8)]),
      ("target", .dir [("build.rs", .file ⟨#[0xFF]⟩)])]),
    ("broken", .dir [("lib.rs", .file ⟨#[0xFF]⟩)])]

theorem fixHeaders_exact_smallProjects :
    (fixHeaders smallProjects ["work"]).result = .ok () ∧
      (∃ fixed, Fixed smallProjects ["work"] fixed (fixHeaders smallProjects ["work"])) ∧
      (∃ error, (fixHeaders smallProjects ["broken"]).result = .error error) ∧
      (fixHeaders smallProjects ["broken"]).files = smallProjects := by
  have hdistinct : smallProjects.root.Distinct := by
    simp [smallProjects, FileNode.distinct_dir_iff]
  have htexts : ∀ location style bytes, Candidate smallProjects ["work"] location style bytes →
      String.fromUTF8? bytes ≠ none := by
    intro location style bytes hcandidate
    have hbytes :
        location = ["work", "Cargo.toml"] ∧ bytes = "[workspace]\n".toUTF8 ∨
          location = ["work", "src", "lib.rs"] ∧ bytes = "\npub fn f() {}\n".toUTF8 := by
      simpa [smallProjects, FileTree.walk, FileNode.find?, FileNode.child?, FileNode.entries,
        FileNode.mem_walk_dir, FileNode.mem_walk_file, skipsHeaders, headerSkips,
        FileNode.isDir] using ((candidate_iff hdistinct).mp hcandidate).1
    rcases hbytes with ⟨-, rfl⟩ | ⟨-, rfl⟩
    · exact Option.ne_none_iff_exists'.mpr ⟨_, fromUTF8?_toUTF8 _⟩
    · exact Option.ne_none_iff_exists'.mpr ⟨_, fromUTF8?_toUTF8 _⟩
  have hbroken : Candidate smallProjects ["broken"] ["broken", "lib.rs"] .slashes ⟨#[0xFF]⟩ := by
    refine (candidate_iff hdistinct).mpr ⟨?_, rfl⟩
    simp [smallProjects, FileTree.walk, FileNode.find?, FileNode.child?, FileNode.entries,
      FileNode.lookup_cons, FileNode.mem_walk_dir, FileNode.mem_walk_file, skipsHeaders,
      headerSkips, FileNode.isDir]
  obtain ⟨_, hends, hfixed⟩ := fixHeaders_exact ["work"] hdistinct
  obtain ⟨hfails, _⟩ := fixHeaders_exact ["broken"] hdistinct
  exact ⟨hends htexts, hfixed (hends htexts), hfails ⟨_, _, _, hbroken, by decide⟩⟩

end FlashBench.Upkeep
