import Manuscript.Proofs.Disk.Directory
import Manuscript.Proofs.Disk.Operation

/-!
Tasks on files as plans of single steps.

A plan says which step comes next and how it goes on with what the step
answers. Run without disturbance it is the task itself. Otherwise each step may
fail: then it has changed nothing, but a write may have left any beginning of
its bytes. A plan that ends before it is done, as in a crash, ends between two
steps; one that ends within a write leaves what the write leaves when it fails.

What holds at every such point is shown along the plan: `Always` asks it of the
disk before each step, and is kept by every step.
-/

namespace Manuscript.Disk

/-- A task on files, step by step. -/
inductive Plan (α : Type) : Type
  | done (a : α)
  | look (next : Disk → Plan α)
  | read (p : Path) (next : Except Fault Bytes → Plan α)
  | create (p : Path) (next : Except Fault Location → Plan α)
  | write (loc : Location) (bytes : Bytes) (next : Except Fault Unit → Plan α)
  | sync (loc : Location) (next : Except Fault Unit → Plan α)
  | makeDir (p : Path) (next : Except Fault Unit → Plan α)

namespace Plan

variable {α β : Type}

def bind : Plan α → (α → Plan β) → Plan β
  | done a, f => f a
  | look next, f => look fun d => (next d).bind f
  | read p next, f => read p fun r => (next r).bind f
  | create p next, f => create p fun r => (next r).bind f
  | write loc bytes next, f => write loc bytes fun r => (next r).bind f
  | sync loc next, f => sync loc fun r => (next r).bind f
  | makeDir p next, f => makeDir p fun r => (next r).bind f

def run : Plan α → Disk → α × Disk
  | done a, d => (a, d)
  | look next, d => (next d).run d
  | read p next, d => (next (d.read p)).run d
  | create p next, d =>
    match d.create p with
    | .error f => (next (.error f)).run d
    | .ok (loc, d) => (next (.ok loc)).run d
  | write loc bytes next, d =>
    match d.writeAt loc bytes with
    | .error f => (next (.error f)).run d
    | .ok d => (next (.ok ())).run d
  | sync loc next, d => (next (d.syncAt loc)).run d
  | makeDir p next, d =>
    match d.makeDir p with
    | .error f => (next (.error f)).run d
    | .ok d => (next (.ok ())).run d

theorem run_bind (t : Plan α) (f : α → Plan β) (d : Disk) :
    (t.bind f).run d = (f (t.run d).1).run (t.run d).2 := by
  induction t generalizing d with
  | done a => rfl
  | look next ih => exact ih d d
  | read p next ih => exact ih _ d
  | create p next ih =>
      rw [bind, run, run]
      cases d.create p with
      | error fault => exact ih _ d
      | ok created => exact ih _ created.2
  | write loc bytes next ih =>
      rw [bind, run, run]
      cases d.writeAt loc bytes with
      | error fault => exact ih _ d
      | ok written => exact ih _ written
  | sync loc next ih => exact ih _ d
  | makeDir p next ih =>
      rw [bind, run, run]
      cases d.makeDir p with
      | error fault => exact ih _ d
      | ok made => exact ih _ made

/-! ### Disturbed plans -/

inductive Step : Plan α → Disk → Plan α → Disk → Prop
  | look {next : Disk → Plan α} {d : Disk} : Step (look next) d (next d) d
  | read {p : Path} {next : Except Fault Bytes → Plan α} {d : Disk} :
      Step (read p next) d (next (d.read p)) d
  | readFails {p : Path} {next : Except Fault Bytes → Plan α} {d : Disk} (f : Fault) :
      Step (read p next) d (next (.error f)) d
  | create {p : Path} {next : Except Fault Location → Plan α} {d d' : Disk} {loc : Location} :
      d.create p = .ok (loc, d') → Step (create p next) d (next (.ok loc)) d'
  | createFails {p : Path} {next : Except Fault Location → Plan α} {d : Disk} (f : Fault) :
      Step (create p next) d (next (.error f)) d
  | write {loc : Location} {bytes : Bytes} {next : Except Fault Unit → Plan α} {d d' : Disk} :
      d.writeAt loc bytes = .ok d' → Step (write loc bytes next) d (next (.ok ())) d'
  | writeFails {loc : Location} {bytes : Bytes} {next : Except Fault Unit → Plan α} {d : Disk}
      (f : Fault) : Step (write loc bytes next) d (next (.error f)) d
  | writeStops {loc : Location} {bytes part : Bytes} {next : Except Fault Unit → Plan α}
      {d d' : Disk} (f : Fault) :
      part <+: bytes → d.writeAt loc part = .ok d' →
        Step (write loc bytes next) d (next (.error f)) d'
  | sync {loc : Location} {next : Except Fault Unit → Plan α} {d : Disk} :
      Step (sync loc next) d (next (d.syncAt loc)) d
  | syncFails {loc : Location} {next : Except Fault Unit → Plan α} {d : Disk} (f : Fault) :
      Step (sync loc next) d (next (.error f)) d
  | makeDir {p : Path} {next : Except Fault Unit → Plan α} {d d' : Disk} :
      d.makeDir p = .ok d' → Step (makeDir p next) d (next (.ok ())) d'
  | makeDirFails {p : Path} {next : Except Fault Unit → Plan α} {d : Disk} (f : Fault) :
      Step (makeDir p next) d (next (.error f)) d

/-- Some steps, up to any point between two of them. -/
inductive Reaches : Plan α → Disk → Plan α → Disk → Prop
  | here (t : Plan α) (d : Disk) : Reaches t d t d
  | step {t t₁ t₂ : Plan α} {d d₁ d₂ : Disk} :
      Step t d t₁ d₁ → Reaches t₁ d₁ t₂ d₂ → Reaches t d t₂ d₂

theorem reaches_run (t : Plan α) (d : Disk) : Reaches t d (done (t.run d).1) (t.run d).2 := by
  induction t generalizing d with
  | done a => exact .here _ d
  | look next ih => exact .step .look (ih d d)
  | read p next ih => exact .step .read (ih _ d)
  | create p next ih =>
      rw [run]
      cases h : d.create p with
      | error f => exact .step (.createFails f) (ih _ d)
      | ok created => exact .step (.create h) (ih _ created.2)
  | write loc bytes next ih =>
      rw [run]
      cases h : d.writeAt loc bytes with
      | error f => exact .step (.writeFails f) (ih _ d)
      | ok written => exact .step (.write h) (ih _ written)
  | sync loc next ih => exact .step .sync (ih _ d)
  | makeDir p next ih =>
      rw [run]
      cases h : d.makeDir p with
      | error f => exact .step (.makeDirFails f) (ih _ d)
      | ok made => exact .step (.makeDir h) (ih _ made)

/-- However the steps of a plan go, the disk is as it should be before each of them and after the
last one, and then so is the result. -/
def Always (I : Disk → Prop) (Q : α → Disk → Prop) : Plan α → Disk → Prop
  | done a, d => I d ∧ Q a d
  | look next, d => I d ∧ Always I Q (next d) d
  | read p next, d =>
    I d ∧ Always I Q (next (d.read p)) d ∧ ∀ f, Always I Q (next (.error f)) d
  | create p next, d =>
    I d ∧ (∀ loc d', d.create p = .ok (loc, d') → Always I Q (next (.ok loc)) d') ∧
      ∀ f, Always I Q (next (.error f)) d
  | write loc bytes next, d =>
    I d ∧ (∀ d', d.writeAt loc bytes = .ok d' → Always I Q (next (.ok ())) d') ∧
      ∀ f, Always I Q (next (.error f)) d ∧
        ∀ part d', part <+: bytes → d.writeAt loc part = .ok d' → Always I Q (next (.error f)) d'
  | sync loc next, d =>
    I d ∧ Always I Q (next (d.syncAt loc)) d ∧ ∀ f, Always I Q (next (.error f)) d
  | makeDir p next, d =>
    I d ∧ (∀ d', d.makeDir p = .ok d' → Always I Q (next (.ok ())) d') ∧
      ∀ f, Always I Q (next (.error f)) d

variable {I : Disk → Prop} {Q : α → Disk → Prop} {t t' : Plan α} {d d' : Disk}

theorem Always.holds (h : Always I Q t d) : I d := by
  cases t with
  | done a => exact h.1
  | look next => exact h.1
  | read p next => exact h.1
  | create p next => exact h.1
  | write loc bytes next => exact h.1
  | sync loc next => exact h.1
  | makeDir p next => exact h.1

theorem Always.step (h : Always I Q t d) (hs : Step t d t' d') : Always I Q t' d' := by
  cases hs with
  | look => exact h.2
  | read => exact h.2.1
  | readFails f => exact h.2.2 f
  | create hcreate => exact h.2.1 _ _ hcreate
  | createFails f => exact h.2.2 f
  | write hwrite => exact h.2.1 _ hwrite
  | writeFails f => exact (h.2.2 f).1
  | writeStops f hpart hwrite => exact (h.2.2 f).2 _ _ hpart hwrite
  | sync => exact h.2.1
  | syncFails f => exact h.2.2 f
  | makeDir hmake => exact h.2.1 _ hmake
  | makeDirFails f => exact h.2.2 f

theorem Always.imp {J : Disk → Prop} {R : α → Disk → Prop} (h : Always I Q t d)
    (hI : ∀ d, I d → J d) (hQ : ∀ a d, I d → Q a d → R a d) : Always J R t d := by
  induction t generalizing d with
  | done a => exact ⟨hI d h.1, hQ a d h.1 h.2⟩
  | look next ih => exact ⟨hI d h.1, ih d h.2⟩
  | read p next ih => exact ⟨hI d h.1, ih _ h.2.1, fun f => ih _ (h.2.2 f)⟩
  | create p next ih =>
      exact ⟨hI d h.1, fun loc d' hd => ih _ (h.2.1 loc d' hd), fun f => ih _ (h.2.2 f)⟩
  | write loc bytes next ih =>
      exact ⟨hI d h.1, fun d' hd => ih _ (h.2.1 d' hd),
        fun f => ⟨ih _ (h.2.2 f).1, fun part d' hpart hd => ih _ ((h.2.2 f).2 part d' hpart hd)⟩⟩
  | sync loc next ih => exact ⟨hI d h.1, ih _ h.2.1, fun f => ih _ (h.2.2 f)⟩
  | makeDir p next ih =>
      exact ⟨hI d h.1, fun d' hd => ih _ (h.2.1 d' hd), fun f => ih _ (h.2.2 f)⟩

/-- At every point that is reached the disk is as it should be, and at the end the result. -/
theorem Always.reaches (h : Always I Q t d) (hr : Reaches t d t' d') :
    I d' ∧ ∀ a, t' = done a → Q a d' := by
  induction hr with
  | here t d =>
      refine ⟨h.holds, ?_⟩
      rintro a rfl
      exact h.2
  | step hs _ ih => exact ih (h.step hs)

theorem Always.run (h : Always I Q t d) : I (t.run d).2 ∧ Q (t.run d).1 (t.run d).2 := by
  obtain ⟨hdisk, hresult⟩ := h.reaches (reaches_run t d)
  exact ⟨hdisk, hresult _ rfl⟩

theorem Always.bind {R : β → Disk → Prop} {f : α → Plan β}
    (h : Always I (fun a d => Always I R (f a) d) t d) : Always I R (t.bind f) d := by
  induction t generalizing d with
  | done a => exact h.2
  | look next ih => exact ⟨h.1, ih d h.2⟩
  | read p next ih => exact ⟨h.1, ih _ h.2.1, fun f => ih _ (h.2.2 f)⟩
  | create p next ih =>
      exact ⟨h.1, fun loc d' hd => ih _ (h.2.1 loc d' hd), fun f => ih _ (h.2.2 f)⟩
  | write loc bytes next ih =>
      exact ⟨h.1, fun d' hd => ih _ (h.2.1 d' hd),
        fun f => ⟨ih _ (h.2.2 f).1, fun part d' hpart hd => ih _ ((h.2.2 f).2 part d' hpart hd)⟩⟩
  | sync loc next ih => exact ⟨h.1, ih _ h.2.1, fun f => ih _ (h.2.2 f)⟩
  | makeDir p next ih => exact ⟨h.1, fun d' hd => ih _ (h.2.1 d' hd), fun f => ih _ (h.2.2 f)⟩

end Plan

/-! ### Plans of the tasks -/

namespace Plan

def loadText (p : Path) : Plan (Except FileError Text) :=
  read p fun
    | .error f => done (.error (.reading p f))
    | .ok bytes =>
      match bytes.text? with
      | some t => done (.ok t)
      | none => done (.error (.reading p .notUtf8))

def writeBackup (p : Path) (suffix : Text) : Plan (Except FileError Path) :=
  look fun d =>
    if !d.holds p then done (.error (.noSource p))
    else read p fun
      | .error f => done (.error (.readingForBackup p f))
      | .ok bytes =>
        let backup := p.withSuffix suffix
        create backup fun
          | .error f => done (.error (.creatingBackup backup f))
          | .ok loc => write loc bytes fun
            | .error f => done (.error (.writingBackup backup f))
            | .ok () => sync loc fun
              | .error f => done (.error (.flushingBackup backup f))
              | .ok () => done (.ok backup)

/-- The directory is there, or else the fault stands. -/
def settleDir (p : Path) (f : Fault) : Plan (Except Fault Unit) :=
  look fun d => done (if d.holdsDirectory p then .ok () else .error f)

def makeDirs : Nat → Path → Plan (Except Fault Unit)
  | 0, _ => done (.error (.os .notFound))
  | fuel + 1, p =>
    if p.components = [] then done (.ok ())
    else makeDir p fun
      | .ok () => done (.ok ())
      | .error f =>
        if f ≠ .os .notFound then settleDir p f
        else match p.parent? with
          | none => done (.error f)
          | some parent => (makeDirs fuel parent).bind fun
            | .error f => done (.error f)
            | .ok () => makeDir p fun
              | .ok () => done (.ok ())
              | .error f => settleDir p f

def ensureDir (p : Path) : Plan (Except FileError Unit) :=
  look fun d =>
    if d.holds p then done (.ok ())
    else (makeDirs (p.text.length + 1) p).bind fun
      | .ok () => done (.ok ())
      | .error f => done (.error (.bare f))

def ensureParent (p : Path) : Plan (Except FileError Unit) :=
  match p.parent? with
  | some ⟨c :: rest⟩ => ensureDir ⟨c :: rest⟩
  | _ => done (.ok ())

def storeText (p : Path) (t : Text) : Plan (Except FileError Unit) :=
  (ensureParent p).bind fun
    | .error e => done (.error e)
    | .ok () => create p fun
      | .error f => done (.error (.writing p f))
      | .ok loc => write loc (.ofText t) fun
        | .error f => done (.error (.writing p f))
        | .ok () => done (.ok ())

variable {p : Path} {d : Disk}

theorem run_loadText (p : Path) (d : Disk) : (loadText p).run d = (d.loadText p, d) := by
  rw [loadText, run, Disk.loadText, readText]
  cases d.read p with
  | error f => rfl
  | ok bytes =>
      cases htext : bytes.text? with
      | none => simp only [htext]; rfl
      | some t => simp only [htext]; rfl

theorem run_writeBackup (p : Path) (suffix : Text) (d : Disk) :
    (writeBackup p suffix).run d = d.writeBackup p suffix := by
  rw [writeBackup, run, Disk.writeBackup]
  split
  next => rfl
  next =>
    rw [run]
    cases d.read p with
    | error f => rfl
    | ok bytes =>
        simp only [run]
        cases d.create (p.withSuffix suffix) with
        | error f => rfl
        | ok created =>
            simp only
            cases created.2.writeAt created.1 bytes with
            | error f => rfl
            | ok written =>
                simp only
                cases written.syncAt created.1 with
                | error f => rfl
                | ok u => rfl

theorem run_makeDirs (fuel : Nat) (p : Path) (d : Disk) :
    (makeDirs fuel p).run d = d.makeDirs fuel p := by
  induction fuel generalizing p d with
  | zero => rfl
  | succ fuel ih =>
      rw [makeDirs, Disk.makeDirs]
      split
      next => rfl
      next =>
        rw [run]
        cases d.makeDir p with
        | ok made => rfl
        | error f =>
            simp only
            split
            next => rfl
            next =>
              cases p.parent? with
              | none => rfl
              | some parent =>
                  simp only [run_bind, ih]
                  rcases Disk.makeDirs fuel parent d with ⟨g | ⟨⟩, above⟩
                  · rfl
                  · simp only [run]
                    cases above.makeDir p with
                    | ok made => rfl
                    | error g => rfl

theorem run_ensureDir (p : Path) (d : Disk) : (ensureDir p).run d = d.ensureDir p := by
  rw [ensureDir, run, Disk.ensureDir]
  split
  next => rfl
  next =>
    rw [run_bind, run_makeDirs]
    rcases Disk.makeDirs (p.text.length + 1) p d with ⟨f | ⟨⟩, made⟩
    · rfl
    · rfl

theorem run_ensureParent (p : Path) (d : Disk) : (ensureParent p).run d = d.ensureParent p := by
  rw [ensureParent, Disk.ensureParent]
  cases p.parent? with
  | none => rfl
  | some parent =>
      obtain ⟨text⟩ := parent
      cases text with
      | nil => rfl
      | cons c rest => exact run_ensureDir ⟨c :: rest⟩ d

theorem run_storeText (p : Path) (t : Text) (d : Disk) :
    (storeText p t).run d = d.storeText p t := by
  rw [storeText, run_bind, run_ensureParent, Disk.storeText]
  rcases Disk.ensureParent p d with ⟨e | ⟨⟩, made⟩
  · rfl
  · simp only [run, Disk.write]
    cases made.create p with
    | error f => rfl
    | ok created =>
        simp only
        cases created.2.writeAt created.1 (.ofText t) with
        | error f => rfl
        | ok written => rfl

/-! ### The tasks at every point -/

section

variable {o : Location} {name : Text} {bytes : Bytes} (h : d.LinkFree)
include h

theorem loadText_always (p : Path) :
    Always (· = d)
      (fun r d' => d' = d ∧ ∀ t, r = .ok t → ∃ o name bytes, d.Leads p o name ∧
        d.file? (o ++ [name]) = some bytes ∧ bytes.text? = some t)
      (loadText p) d := by
  refine ⟨rfl, ?_, fun f => ⟨rfl, rfl, nofun⟩⟩
  cases hread : d.read p with
  | error f => exact ⟨rfl, rfl, nofun⟩
  | ok bytes =>
      obtain ⟨o, name, x, hleads, hentry⟩ := h.leads_of_read hread
      cases htext : bytes.text? with
      | none =>
          simp only [htext]
          exact ⟨rfl, rfl, nofun⟩
      | some t =>
          simp only [htext]
          refine ⟨rfl, rfl, ?_⟩
          rintro _ ⟨⟩
          exact ⟨o, name, bytes, hleads, file?_eq_some_iff.mpr ⟨x, hentry⟩, htext⟩

/-- Only the backup is altered, and when it is done it holds what the file holds. -/
theorem writeBackup_always (hp : d.Leads p o name) (hfile : d.file? (o ++ [name]) = some bytes)
    (suffix : Text) :
    Always (fun d' => d.Alters d' [p.withSuffix suffix])
      (fun r d' => ∀ b, r = .ok b → b = p.withSuffix suffix ∧ d'.content? b = some bytes)
      (writeBackup p suffix) d := by
  have hsame : d.Alters d [p.withSuffix suffix] := .refl d _
  refine ⟨hsame, ?_⟩
  beta_reduce
  split
  next => exact ⟨hsame, nofun⟩
  next =>
    refine ⟨hsame, ?_, fun f => ⟨hsame, nofun⟩⟩
    obtain ⟨x, hentry⟩ := file?_eq_some_iff.mp hfile
    rw [h.read_of_file hp hentry]
    cases d.refused .read (o ++ [name]) with
    | error f => exact ⟨hsame, nofun⟩
    | ok u =>
        refine ⟨hsame, fun loc d₁ hcreate => ?_, fun f => ⟨hsame, nofun⟩⟩
        obtain ⟨hleads, -, hempty⟩ := h.create_ok hcreate
        have hwritten : ∀ {part d₂}, d₁.writeAt loc part = .ok d₂ → Filled d d₂ loc part :=
          fun hwrite => hempty.trans ((h.of_changesFiles hempty.changes).writeAt_ok
            (by simp [hempty.here]) hwrite)
        refine ⟨hempty.alters hleads, fun d₂ hwrite => ?_, fun f => ⟨⟨hempty.alters hleads, nofun⟩,
          fun part d₂ _ hwrite => ⟨(hwritten hwrite).alters hleads, nofun⟩⟩⟩
        have hfull := hwritten hwrite
        have hdone := hfull.alters hleads
        refine ⟨hdone, ?_, fun f => ⟨hdone, nofun⟩⟩
        cases d₂.syncAt loc with
        | error f => exact ⟨hdone, nofun⟩
        | ok u =>
            refine ⟨hdone, ?_⟩
            rintro _ ⟨⟩
            refine ⟨rfl, ?_⟩
            have hlater := (hdone.touches h).growth.leadsTo h hleads
            rw [(h.of_changesFiles hfull.changes).content?_of_leadsTo hlater, hfull.here]

theorem ensureParent_always (hp : d.Leads p o name) :
    Always (· = d) (fun r d' => r = .ok () ∧ d' = d) (ensureParent p) d := by
  have hdirectory := h.enters_directory hp
  rw [ensureParent]
  cases hparent : p.parent? with
  | none => exact ⟨rfl, rfl, rfl⟩
  | some parent =>
      obtain ⟨text⟩ := parent
      cases text with
      | nil => exact ⟨rfl, rfl, rfl⟩
      | cons c rest =>
          rw [Path.directory, hparent] at hdirectory
          have hholds : d.holds ⟨c :: rest⟩ = true := by
            rw [holds, h.at?_of_enters hdirectory]
            rfl
          refine ⟨rfl, ?_⟩
          beta_reduce
          rw [if_pos hholds]
          exact ⟨rfl, rfl, rfl⟩

/-- A file that a text is stored to is altered by the last steps only, and then holds a beginning
of the text. -/
theorem storeText_always (hp : d.Leads p o name) (hfile : d.file? (o ++ [name]) ≠ none) (t : Text) :
    Always
      (fun d' => d' = d ∨ ∃ part, part <+: Bytes.ofText t ∧ Filled d d' (o ++ [name]) part)
      (fun r d' => match r with
        | .ok () => Filled d d' (o ++ [name]) (.ofText t)
        | .error e => d' = d ∨ ∃ f, e = .writing p f)
      (storeText p t) d := by
  refine Always.bind (Always.imp (ensureParent_always h hp) (fun _ => .inl) ?_)
  rintro r _ - ⟨rfl, rfl⟩
  refine ⟨.inl rfl, fun loc d₁ hcreate => ?_, fun f => ⟨.inl rfl, .inl rfl⟩⟩
  obtain ⟨hleads, -, hempty⟩ := h.create_ok hcreate
  obtain rfl : o ++ [name] = loc := hp.leadsTo.unique hleads
  have hwritten : ∀ {part d₂}, d₁.writeAt (o ++ [name]) part = .ok d₂ →
      Filled _ d₂ (o ++ [name]) part :=
    fun hwrite => hempty.trans ((h.of_changesFiles hempty.changes).writeAt_ok
      (by simp [hempty.here]) hwrite)
  have hstarted : ∃ part, part <+: Bytes.ofText t ∧ Filled _ d₁ (o ++ [name]) part :=
    ⟨[], List.nil_prefix, hempty⟩
  refine ⟨.inr hstarted, fun d₂ hwrite => ?_, fun f => ⟨⟨.inr hstarted, .inr ⟨f, rfl⟩⟩,
    fun part d₂ hpart hwrite => ⟨.inr ⟨part, hpart, hwritten hwrite⟩, .inr ⟨f, rfl⟩⟩⟩⟩
  exact ⟨.inr ⟨_, List.prefix_rfl, hwritten hwrite⟩, hwritten hwrite⟩

end

end Plan

end Manuscript.Disk
