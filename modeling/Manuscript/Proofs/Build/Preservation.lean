import Manuscript.Proofs.Build.Artifact
import Manuscript.Proofs.Disk.Directory

/-!
The files that a build check touches.

A check touches its artifact and the path where an earlier artifact waits, and
the basic check the document that it writes, too. The paths are known beforehand:
what is asked of the compiler depends only on the directory of the document,
which stays where it is.
-/

namespace Manuscript

/-- The compiler has no effect but to write to the artifact of its request. -/
def Compiler.WritesArtifact (k : Compiler) : Prop :=
  ∀ (request : CompileRequest) (d : Disk), d.LinkFree →
    d.Touches (k.run request d).2 [request.expectedArtifact]

namespace BasicDocument

variable {root : Path}

def name (root : Path) : Text :=
  root.fileStem ++ suffix ++ ".tex".toList

theorem component?_name (root : Path) :
    Path.component? (name root) = some (.normal (name root)) := by
  refine Path.component?_of_length ?_
  rw [name, List.length_append]
  exact Nat.le_add_left_of_le (by decide)

theorem slash_not_mem_name (root : Path) : '/' ∉ name root := by
  simp only [name, List.mem_append, not_or]
  exact ⟨⟨Path.slash_not_mem_fileStem root, by decide⟩, by decide⟩

theorem exists_parts_path (root : Path) : ∃ before, (path root).parts = before ++ [name root] := by
  rw [path, Path.withFileName]
  split
  next => exact Path.exists_parts_join (slash_not_mem_name root)
  next => exact Path.exists_parts_join (slash_not_mem_name root)

theorem fileName_path (root : Path) : (path root).fileName = name root := by
  obtain ⟨before, hparts⟩ := exists_parts_path root
  rw [Path.fileName, Path.fileName?_of_parts hparts (component?_name root)]
  rfl

theorem fileStem_path (root : Path) : (path root).fileStem = root.fileStem ++ suffix := by
  have hne : root.fileStem ++ suffix ≠ [] := List.append_ne_nil_of_right_ne_nil _ (by decide)
  have hcut : Path.cutAtDot (name root) = (root.fileStem ++ suffix, some "tex".toList) :=
    Path.cutAtDot_append hne (by decide)
  rw [Path.fileStem, fileName_path, hcut]

theorem apart_path (root : Path) : Disk.Apart (path root) root := by
  refine .of_fileName fun heq => ?_
  have hstem : (path root).fileStem = root.fileStem := by rw [Path.fileStem, heq, Path.fileStem]
  rw [fileStem_path] at hstem
  exact absurd (List.append_right_eq_self.mp hstem) (by decide)

end BasicDocument

namespace Checker

open Disk

variable {d d' : Disk} {p root : Path} {o : Location} {before : List Text} {name : Text}

/-! ### The earlier artifact -/

theorem park_error {e : FileError} (hpark : park p d = (.error e, d')) : d' = d := by
  rw [park, moveFile] at hpark
  split at hpark
  next =>
    cases hrename : d.rename p (parkedPath p) with
    | error f => exact (by simpa [hrename] using hpark : _ ∧ d = d').2.symm
    | ok d₁ => simp [hrename] at hpark
  next => simp at hpark

section

variable (hparts : p.parts = before ++ [name]) (hname : 3 ≤ name.length)
include hparts hname

theorem holder_parkedPath (h : d.LinkFree) (hp : d.Leads p o name)
    (husable : usable (parkedPath p) = .ok ()) : d.holder (parkedPath p) = .ok o :=
  h.holder_withSuffix hparts (Path.component?_of_length hname) (by decide) hp.holder husable

theorem park_ok (h : d.LinkFree) {parked : Option Path} (hpark : park p d = (.ok parked, d')) :
    parked = none ∧ d' = d ∨
      parked = some (parkedPath p) ∧ d.Touches d' [p, parkedPath p] ∧
        ∃ o, d'.Leads p o name ∧ d'.Leads (parkedPath p) o (name ++ waiting) ∧
          d'.file? (o ++ [name ++ waiting]) ≠ none := by
  rw [park] at hpark
  split at hpark
  next hholds =>
    rw [moveFile] at hpark
    cases hrename : d.rename p (parkedPath p) with
    | error f => simp [hrename] at hpark
    | ok d₁ =>
        obtain ⟨rfl, rfl⟩ : some (parkedPath p) = parked ∧ d₁ = d' := by
          simpa [hrename] using hpark
        obtain ⟨o, hleads, old, x, hold⟩ := h.exists_file (names_artifact hparts hname) hholds
        have husable : usable (parkedPath p) = .ok () := by
          cases husable : usable (parkedPath p) with
          | ok u => rfl
          | error f =>
              obtain ⟨g, hfails⟩ := rename_of_unusable d p husable
              cases hfails.symm.trans hrename
        obtain ⟨htouches, haside, hmoved⟩ := h.rename_ok hleads (names_parkedPath hparts hname)
          (holder_parkedPath hparts hname h hleads husable) (ne_waiting name)
          (file?_eq_some_iff.mpr ⟨x, hold⟩) hrename
        refine .inr ⟨rfl, htouches, o, htouches.growth.leads h hleads,
          htouches.growth.leads h haside, ?_⟩
        rw [hmoved]
        exact Option.some_ne_none old
  next =>
    obtain ⟨rfl, rfl⟩ : none = parked ∧ d = d' := by simpa using hpark
    exact .inl ⟨rfl, rfl⟩

theorem settle_touches (h : d.LinkFree) (hp : d.Leads p o name)
    (haside : d.Leads (parkedPath p) o (name ++ waiting))
    (hwaits : d.file? (o ++ [name ++ waiting]) ≠ none) :
    d.Touches (settle p (parkedPath p) d) [p, parkedPath p] := by
  rw [settle]
  split
  next => exact (h.removeIfPresent_touches _).mono (by simp)
  next =>
    rw [moveFile]
    cases hrename : d.rename (parkedPath p) p with
    | error f => exact (Touches.refl h).mono (List.nil_subset _)
    | ok d₁ =>
        obtain ⟨old, hold⟩ := Option.ne_none_iff_exists'.mp hwaits
        exact (h.rename_ok haside (names_artifact hparts hname) hp.holder
          (Ne.symm (ne_waiting name)) hold hrename).1.mono (by simp)

end

/-! ### The artifacts -/

theorem length_artifactName (r : CompileRequest) : 3 ≤ r.artifactName.length := by
  rw [CompileRequest.artifactName, List.length_append]
  exact Nat.le_add_left_of_le (by decide)

theorem fileName_expectedArtifact (c : Checker) (document : Path) (d : Disk) :
    (c.request document d).expectedArtifact.fileName = document.fileStem ++ ".pdf".toList := by
  obtain ⟨before, hparts⟩ := (c.request document d).parts_expectedArtifact
  have hname := Path.component?_of_length (length_artifactName (c.request document d))
  rw [Path.fileName, Path.fileName?_of_parts hparts hname, Option.getD_some,
    CompileRequest.artifactName, Path.fileStem]
  change (Path.cutAtDot (Path.fileName ⟨document.fileName⟩)).1 ++ _ = _
  rw [Path.fileName_fileName, ← Path.fileStem]

/-- The two checks have different artifacts. -/
theorem apart_artifacts (c : Checker) (root : Path) (d : Disk) :
    Apart (c.request (BasicDocument.path root) d).expectedArtifact
      (c.request root d).expectedArtifact := by
  refine .of_fileName fun heq => ?_
  rw [fileName_expectedArtifact, fileName_expectedArtifact, BasicDocument.fileStem_path] at heq
  have hstem := List.append_cancel_right heq
  exact absurd (List.append_right_eq_self.mp hstem) (by decide)

/-! ### The checks -/

/-- What is asked of the compiler stays the same while directories stay. -/
theorem request_of_extends (c : Checker) {document : Path} (h : d.LinkFree) (hd : d.Extends d')
    (hdirectory : d.Enters document.directory o) :
    c.request document d' = c.request document d := by
  have hbefore : d.canonical? document.directory = some (absolute o) := by
    rw [canonical?, h.at?_of_enters hdirectory]
    rfl
  have hafter : d'.canonical? document.directory = some (absolute o) := by
    rw [canonical?, hd.linkFree.at?_of_enters (hd.enters hdirectory)]
    rfl
  rw [request, request, hbefore, hafter]

section

variable (c : Checker) (hk : c.compiler.WritesArtifact)
include hk

theorem run_touches (h : d.LinkFree) (kind : CheckKind) (document : Path) :
    let artifact := (c.request document d).expectedArtifact
    d.Touches (c.run kind document d).2 [artifact, parkedPath artifact] := by
  intro artifact
  obtain ⟨before, hparts⟩ := (c.request document d).parts_expectedArtifact
  have hname := length_artifactName (c.request document d)
  have hdir := (h.ensureDir_touches (c.request document d).outputDir).mono
    (List.nil_subset [artifact, parkedPath artifact])
  rcases c.run_cases kind document d with ⟨e, d₁, hensure, hrun⟩ |
      ⟨d₁, e, d₂, hensure, hpark, hrun⟩ |
      ⟨d₁, parked, d₂, answer, d₃, hensure, hpark, hanswer, hrun⟩
  · rw [hensure] at hdir
    rwa [hrun]
  · rw [hensure] at hdir
    rw [hrun, park_error hpark]
    exact hdir
  · rw [hensure] at hdir
    rw [hrun]
    have hlink := hdir.growth.linkFree
    have hcompiles : d₂.LinkFree → d₂.Touches d₃ [artifact] := by
      intro h₂
      have htouches := hk (c.request document d) d₂ h₂
      rwa [hanswer] at htouches
    rcases park_ok hparts hname hlink hpark with
      ⟨rfl, rfl⟩ | ⟨rfl, hparks, o, hleads, haside, hwaits⟩
    · exact hdir.trans ((hcompiles hlink).mono (by simp))
    · have hcompiled := hcompiles hparks.growth.linkFree
      -- the compiler does not reach the earlier artifact, since it waits under another name
      have hstays : d₃.file? (o ++ [(c.request document d).artifactName ++ waiting]) ≠ none := by
        rcases hcompiled.file (o ++ [(c.request document d).artifactName ++ waiting]) with
          hsame | ⟨q, hq, hreached⟩
        · rwa [hsame]
        · obtain rfl := List.mem_singleton.mp hq
          have hloc := hreached.unique
            (hcompiled.growth.leadsTo hparks.growth.linkFree hleads.leadsTo)
          exact absurd (List.head_eq_of_cons_eq (List.append_cancel_left hloc).symm) (ne_waiting _)
      have hsettles := settle_touches hparts hname hcompiled.growth.linkFree
        (hcompiled.growth.leads hparks.growth.linkFree hleads)
        (hcompiled.growth.leads hparks.growth.linkFree haside) hstays
      exact hdir.trans (hparks.trans ((hcompiled.mono (by simp [artifact])).trans hsettles))

/-- The basic check touches its document besides. Its paths are those that it would have had
earlier, if the root document was there. -/
theorem runBasic_touches {d₀ : Disk} (h₀ : d₀.LinkFree) (hd : d₀.Extends d)
    (hroot : d₀.Leads root o name) :
    let artifact := (c.request (BasicDocument.path root) d₀).expectedArtifact
    d.Touches (c.runBasic root d).2
      [BasicDocument.path root, artifact, parkedPath artifact] := by
  have h := hd.linkFree
  intro artifact
  obtain ⟨before, hparts, hcomponent⟩ := hroot.names.exists_parts
  rw [runBasic]
  cases hload : d.loadText root with
  | error e => exact (Touches.refl h).mono (List.nil_subset _)
  | ok rootText =>
      have hstores := h.storeText_touches (BasicDocument.path root) (BasicDocument.text rootText)
      rcases hstore : d.storeText (BasicDocument.path root) (BasicDocument.text rootText) with
        ⟨e | ⟨⟩, d₁⟩
      · rw [hstore] at hstores
        simp only [hstore]
        exact hstores.mono (by simp)
      · rw [hstore] at hstores
        simp only [hstore]
        have hlink := hstores.growth.linkFree
        -- the document was written, so its path can be looked up and leads beside the root document
        obtain ⟨loc, ⟨o', last, hleads, -⟩, -⟩ := h.storeText_ok hstore
        obtain ⟨others, hothers⟩ := BasicDocument.exists_parts_path root
        obtain ⟨hnames, -⟩ := names_of_parts hothers (BasicDocument.component?_name root)
        obtain rfl : BasicDocument.name root = last :=
          Option.some.inj (hnames.last.symm.trans hleads.names.last)
        have hholder : d₀.holder (BasicDocument.path root) = .ok o :=
          h₀.holder_withFileName hparts hcomponent (BasicDocument.component?_name root)
            (BasicDocument.slash_not_mem_name root) hroot.holder
            (hlink.holder_eq_ok_iff.mp hleads.holder).1
        have hrequest := c.request_of_extends h₀ (hd.trans hstores.growth)
          (h₀.enters_directory ⟨hnames, hholder, hleads.short⟩)
        have hruns := c.run_touches hk hlink .basic (BasicDocument.path root)
        rw [hrequest] at hruns
        have hchecked := (hstores.mono (by simp)).trans
          (hruns.mono (List.subset_cons_self (BasicDocument.path root) _))
        split
        next => exact hchecked
        next =>
          exact hchecked.trans
            ((hchecked.growth.linkFree.removeIfPresent_touches _).mono (by simp))

end

end Checker

end Manuscript
