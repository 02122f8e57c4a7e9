import FlashBench.Proofs.Upkeep.CommentText
import FlashBench.Proofs.Upkeep.HeaderTask
import FlashBench.Upkeep.Dependencies

/-!
# What the scans of a project answer

Two scans go over a project: one for files without a header, one for manifests. They leave out
different things, the one only directories, the other anything by its name, but they come to the
same: **what is found is what lies in sight of the root** (`InSight`), each location once.

The root is not in sight of itself. **A root whose own name is left out hides all that lies below
it**, so both scans find nothing there (`scans_exact`).
-/

namespace FlashBench.Upkeep

variable {files : FileTree} {root location : Location} {style : CommentStyle} {bytes : ByteArray}
  {missing : List Headerless} {file : Headerless}

/-- The name of the root is none that the scans leave out. -/
def LookedInto (root : Location) : Prop := root.getLast?.getD "" ∉ headerSkips

/-- No directory below the root and above the location has a name that the scans leave out. The
root itself does not count. -/
def InSight (root location : Location) : Prop :=
  ∀ directory, root <+: directory → directory ≠ root → directory <+: location →
    directory ≠ location → directory.getLast?.getD "" ∉ headerSkips

/-- What lies in the root itself is in sight. -/
theorem inSight_concat (root : Location) (name : String) : InSight root (root ++ [name]) := by
  intro directory hfirst hroot hlast hhere
  rcases List.prefix_concat_iff.mp hlast with hsame | hbefore
  · exact absurd hsame hhere
  · exact absurd (hbefore.eq_of_length_le hfirst.length_le) hroot

/-- A file in sight of the root whose name says how its comments are written. -/
structure CodeFile (files : FileTree) (root location : Location) (style : CommentStyle)
    (bytes : ByteArray) : Prop where
  below : root <+: location
  found : files.root.find? location = some (.file bytes)
  styled : CommentStyle.ofName? (location.getLast?.getD "") = some style
  sight : InSight root location

/-- A manifest in sight of the root. -/
structure ManifestAt (files : FileTree) (root location : Location) : Prop where
  below : root <+: location
  found : (files.root.find? location).isSome = true
  named : location.getLast? = some manifestName
  sight : InSight root location

/-- The two scans leave out the same names. -/
theorem mem_manifestSkips_iff {name : String} : name ∈ manifestSkips ↔ name ∈ headerSkips := by
  simp only [manifestSkips, headerSkips, List.mem_cons, List.not_mem_nil, or_false]
  grind

/-- Looking into everything from the root on is looking into the root and having all in sight. -/
theorem lookedInto_and_inSight_iff (hne : location ≠ root) (hbelow : root <+: location) :
    LookedInto root ∧ InSight root location ↔
      ∀ directory, root <+: directory → directory <+: location → directory ≠ location →
        directory.getLast?.getD "" ∉ headerSkips := by
  constructor
  · rintro ⟨hroot, hsight⟩ directory hfirst hlast hother
    by_cases hsame : directory = root
    · exact hsame ▸ hroot
    · exact hsight directory hfirst hsame hlast hother
  · intro hseen
    exact ⟨hseen root List.prefix_rfl hbelow hne.symm,
      fun directory hfirst _ hlast hother => hseen directory hfirst hlast hother⟩

/-- **Below a root that is a directory** the candidates are the files in sight, if the root is
looked into. -/
theorem candidate_iff_codeFile {entries : List (String × FileNode)}
    (hroot : files.root.find? root = some (.dir entries)) :
    Candidate files root location style bytes ↔
      LookedInto root ∧ CodeFile files root location style bytes := by
  have hne : files.root.find? location = some (.file bytes) → location ≠ root := by
    rintro hfound rfl
    rw [hroot] at hfound
    cases hfound
  constructor
  · rintro ⟨hbelow, hfound, hstyled, hseen⟩
    obtain ⟨hlooked, hsight⟩ := (lookedInto_and_inSight_iff (hne hfound) hbelow).mpr hseen
    exact ⟨hlooked, hbelow, hfound, hstyled, hsight⟩
  · rintro ⟨hlooked, hbelow, hfound, hstyled, hsight⟩
    exact ⟨hbelow, hfound, hstyled,
      (lookedInto_and_inSight_iff (hne hfound) hbelow).mp ⟨hlooked, hsight⟩⟩

/-! ## Manifests -/

/-- **What the scan for manifests finds.** A root that is a manifest by its name is found as
well. -/
theorem mem_findManifests_iff (hdistinct : files.root.Distinct) :
    location ∈ findManifests files root ↔
      LookedInto root ∧ ManifestAt files root location := by
  have hunskipped : manifestName ∉ headerSkips := by decide
  have hnamed : location.getLast?.getD "" = manifestName ↔
      location.getLast? = some manifestName := by
    cases location.getLast? with
    | none => simp [manifestName]
    | some name => simp
  have hplaced : location ∈ findManifests files root ↔
      ∃ node, (⟨location, node⟩ : Placed) ∈
          files.walk (fun name _ => manifestSkips.contains name) root ∧
        location.getLast?.getD "" = manifestName := by
    simp only [findManifests, List.mem_map, List.mem_filter, beq_iff_eq]
    constructor
    · rintro ⟨placed, ⟨hmem, hname⟩, rfl⟩
      exact ⟨placed.node, hmem, hname⟩
    · rintro ⟨node, hmem, hname⟩
      exact ⟨_, ⟨hmem, hname⟩, rfl⟩
  simp only [hplaced, FileTree.mem_walk_iff hdistinct, hnamed]
  constructor
  · rintro ⟨node, ⟨hbelow, hfound, hkept⟩, hname⟩
    have hseen : ∀ directory, root <+: directory → directory <+: location →
        directory.getLast?.getD "" ∉ headerSkips := by
      intro directory hfirst hlast
      rw [← mem_manifestSkips_iff]
      by_cases hhere : directory = location
      · simpa using hkept directory node hfirst hlast (hhere ▸ hfound)
      · obtain ⟨way, hway, -⟩ := FileNode.exists_dir_above hfound hlast hhere
        simpa using hkept directory way hfirst hlast hway
    exact ⟨hseen root List.prefix_rfl hbelow, hbelow, by simp [hfound], hname,
      fun directory hfirst _ hlast _ => hseen directory hfirst hlast⟩
  · rintro ⟨hlooked, hbelow, hfound, hname, hsight⟩
    obtain ⟨node, hnode⟩ := Option.isSome_iff_exists.mp hfound
    refine ⟨node, ⟨hbelow, hnode, fun front way hfirst hlast _ => ?_⟩, hname⟩
    have hseen : front.getLast?.getD "" ∉ headerSkips := by
      by_cases hroot : front = root
      · exact hroot ▸ hlooked
      · by_cases hhere : front = location
        · rw [hhere, hname]
          exact hunskipped
        · exact hsight front hfirst hroot hlast hhere
    rw [← mem_manifestSkips_iff] at hseen
    simpa using hseen

theorem nodup_findManifests (hdistinct : files.root.Distinct) (root : Location) :
    (findManifests files root).Nodup :=
  (FileTree.nodup_walk hdistinct root).sublist (List.filter_sublist.map _)

/-! ## Files without a header -/

/-- What is found lies where the walk came past, in its order. -/
theorem locations_sublist {walk : List Placed} {looks : List (Option Headerless)}
    (hlooks : walk.map headerlessAt = looks.map .ok) :
    ((looks.filterMap id).map (·.location)).Sublist (walk.map (·.location)) := by
  induction walk generalizing looks with
  | nil =>
      obtain rfl : looks = [] := by simpa using hlooks.symm
      exact .slnil
  | cons placed rest ih =>
      cases looks with
      | nil => simp at hlooks
      | cons look looks =>
          simp only [List.map_cons, List.cons.injEq] at hlooks
          cases look with
          | none => exact (ih hlooks.2).cons _
          | some file =>
              obtain ⟨-, rfl, -⟩ := headerlessAt_eq_some_iff.mp hlooks.1
              exact (ih hlooks.2).cons_cons _

theorem nodup_missing (hdistinct : files.root.Distinct)
    (hmissing : missingHeaders files root = .ok missing) :
    (missing.map (·.location)).Nodup := by
  obtain ⟨looks, hlooks, rfl⟩ := missingHeaders_eq_ok_iff.mp hmissing
  exact (FileTree.nodup_walk hdistinct root).sublist (locations_sublist hlooks)

/-! ## Both scans -/

/-- What the scans of a project answer, each location once. -/
structure Scanned (files : FileTree) (root : Location) (missing : List Headerless)
    (manifests : List Location) : Prop where
  missing_iff : ∀ file, file ∈ missing ↔ LookedInto root ∧
    CodeFile files root file.location file.style file.text.toUTF8 ∧
      hasHeader file.style file.text = false
  missing_once : (missing.map (·.location)).Nodup
  manifests_iff : ∀ location, location ∈ manifests ↔
    LookedInto root ∧ ManifestAt files root location
  manifests_once : manifests.Nodup

/-- **The scans are exact unless the root hides all.** If the files of code in sight are texts, the
scan for headers ends well and finds exactly those of them without one, and the scan for manifests
finds exactly the manifests in sight, provided the root has no name that is left out. If it has one,
neither finds anything. -/
theorem scans_exact (hdistinct : files.root.Distinct) {entries : List (String × FileNode)}
    (hroot : files.root.find? root = some (.dir entries))
    (htexts : ∀ location style bytes, CodeFile files root location style bytes →
      String.fromUTF8? bytes ≠ none) :
    ∃ missing, missingHeaders files root = .ok missing ∧
      Scanned files root missing (findManifests files root) := by
  cases hmissing : missingHeaders files root with
  | error error =>
      obtain ⟨location, style, bytes, hcandidate, hbytes⟩ :=
        (missingHeaders_error_iff hdistinct).mp ⟨error, hmissing⟩
      have hcode := ((candidate_iff_codeFile hroot).mp hcandidate).2
      exact absurd hbytes (htexts location style bytes hcode)
  | ok missing =>
      refine ⟨missing, rfl, fun file => ?_, nodup_missing hdistinct hmissing,
        fun location => mem_findManifests_iff hdistinct, nodup_findManifests hdistinct root⟩
      rw [mem_missing_iff hdistinct hmissing, candidate_iff_codeFile hroot, and_assoc]

/-- Three projects: one of an ordinary name with a directory that is left out, one whose own name is
left out, and one whose only file names the license in code below a closed banner. -/
def namedProjects : FileTree where
  root := .dir [
    ("work", .dir [
      ("Cargo.toml", .file "[workspace]\n".toUTF8),
      ("lib.rs", .file "pub fn f() {}\n".toUTF8),
      ("target", .dir [("build.rs", .file ⟨#[0xFF]⟩)])]),
    ("target", .dir [
      ("Cargo.toml", .file "[workspace]\n".toUTF8),
      ("lib.rs", .file "pub fn f() {}\n".toUTF8)]),
    ("banner", .dir [("notice.rs", .file closedBanner.toUTF8)])]

theorem namedProjects_distinct : namedProjects.root.Distinct := by
  simp [namedProjects, FileNode.distinct_dir_iff]

theorem scans_exact_namedProjects :
    ∃ missing, missingHeaders namedProjects ["work"] = .ok missing ∧
      Scanned namedProjects ["work"] missing (findManifests namedProjects ["work"]) := by
  refine scans_exact namedProjects_distinct rfl fun location style bytes hcode => ?_
  have hcandidate : Candidate namedProjects ["work"] location style bytes :=
    (candidate_iff_codeFile rfl).mpr ⟨by simp [LookedInto, headerSkips], hcode⟩
  have hbytes : bytes = "[workspace]\n".toUTF8 ∨ bytes = "pub fn f() {}\n".toUTF8 := by
    have hwalk := ((candidate_iff namedProjects_distinct).mp hcandidate).1
    simp [namedProjects, FileTree.walk, FileNode.find?, FileNode.child?, FileNode.entries,
      FileNode.mem_walk_dir, FileNode.mem_walk_file, skipsHeaders, headerSkips,
      FileNode.isDir] at hwalk
    exact hwalk.imp And.right And.right
  rcases hbytes with rfl | rfl
  · exact Option.ne_none_iff_exists'.mpr ⟨_, fromUTF8?_toUTF8 _⟩
  · exact Option.ne_none_iff_exists'.mpr ⟨_, fromUTF8?_toUTF8 _⟩

/-- A project that lies in a directory `target` passes whatever it holds, and one whose license is
named in code passes as well. -/
theorem scans_vacuous_namedProjects :
    (missingHeaders namedProjects ["target"] = .ok [] ∧
      findManifests namedProjects ["target"] = [] ∧
      CodeFile namedProjects ["target"] ["target", "lib.rs"] .slashes "pub fn f() {}\n".toUTF8 ∧
      hasHeader .slashes "pub fn f() {}\n" = false ∧
      ManifestAt namedProjects ["target"] ["target", "Cargo.toml"]) ∧
    (missingHeaders namedProjects ["banner"] = .ok [] ∧
      CodeFile namedProjects ["banner"] ["banner", "notice.rs"] .slashes closedBanner.toUTF8 ∧
      ¬ InComment .slashes (topLines closedBanner)) := by
  refine ⟨⟨rfl, rfl, ⟨by simp, rfl, by decide, inSight_concat ["target"] _⟩, by decide,
    ⟨by simp, rfl, rfl, inSight_concat ["target"] _⟩⟩, ?_,
    ⟨by simp, rfl, by decide, inSight_concat ["banner"] _⟩, not_inComment_closedBanner⟩
  have hnotice : headerlessAt ⟨["banner", "notice.rs"], .file closedBanner.toUTF8⟩ = .ok none := by
    have hstyle : CommentStyle.ofName? "notice.rs" = some .slashes := by decide
    unfold headerlessAt
    simp only [Placed.name, List.getLast?_cons_cons, List.getLast?_singleton, Option.getD_some,
      hstyle, fromUTF8?_toUTF8, hasHeader_closedBanner, if_true]
  have hwalk : namedProjects.walk skipsHeaders ["banner"] =
      [⟨["banner"], .dir [("notice.rs", .file closedBanner.toUTF8)]⟩,
        ⟨["banner", "notice.rs"], .file closedBanner.toUTF8⟩] := by
    simp [namedProjects, FileTree.walk, FileNode.find?, FileNode.child?, FileNode.entries,
      FileNode.lookup_cons, FileNode.walk, walkEntries, inNameOrder, skipsHeaders, headerSkips,
      FileNode.isDir]
  refine missingHeaders_eq_ok_iff.mpr ⟨[none, none], ?_, rfl⟩
  rw [hwalk, List.map_cons, List.map_singleton, hnotice]
  rfl

end FlashBench.Upkeep
