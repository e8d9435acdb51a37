import Manuscript.Config.Files
import Manuscript.Proofs.Config.Reading
import Manuscript.Proofs.Disk.Creation
import Manuscript.Proofs.Text.Utf8

/-!
The file of the settings is read as it was written.

Where there was no file, the one that is written holds the defaults. It is found
when the settings are loaded again, which then changes nothing.
-/

namespace Manuscript.Config

open Json

variable {p : Path} {d d' : Disk} {c : Config}

theorem ofBytes?_ofText (t : Text) : ofBytes? ⟨(Bytes.ofText t).toArray⟩ = ofText? t := by
  rw [ofBytes?, Json.ofBytes?, Text.ofBytesWith_ofText, ofText?]

theorem default_fits : Fits {} where
  build := ⟨by decide, by decide⟩
  maxPasses := by decide

theorem loadOrCreate_of_not_holds (hp : d.holds p = false)
    (h : loadOrCreate p d = (.ok c, d')) :
    c = {} ∧ d.write p (.ofText (print {})) = (.ok (), d') := by
  rw [loadOrCreate, hp, if_neg Bool.false_ne_true] at h
  cases hwrite : d.write p (.ofText (print {})) with
  | mk answer written =>
      rw [hwrite] at h
      cases answer with
      | error f => simp at h
      | ok _ =>
          simp only [Prod.mk.injEq, Except.ok.injEq] at h
          exact ⟨h.1.symm, by rw [h.2]⟩

theorem loadOrCreate_of_file {loc : Location} {x : Bool} (hc : c.Fits)
    (hat : d.at? p = some (loc, .file (.ofText c.print) x)) :
    (loadOrCreate p d).2 = d ∧
      (d.refuses .read loc = none → loadOrCreate p d = (.ok c, d)) := by
  have hholds : d.holds p = true := by rw [Disk.holds, hat]; rfl
  refine ⟨by rw [loadOrCreate, if_pos hholds], fun hread => ?_⟩
  have hbytes : d.read p = .ok (.ofText c.print) := by
    rw [Disk.read, Disk.spot_of_at? hat]
    exact Disk.map_refused_of_none _ hread
  rw [loadOrCreate, if_pos hholds, readFrom, hbytes]
  simp only [ofBytes?_ofText, ofText?_of_print hc]

/-- Settings are decoded from all that is left of their JSON, and are found in the file that was
written for them. -/
theorem decoding_undoes_encoding (hc : c.Fits) :
    (∀ j, Thinned c.toJson j →
      (∀ t, Json.ofText? t = some j → ofText? t = some (c.filled j) ∧
        ofBytes? ⟨(Bytes.ofText t).toArray⟩ = some (c.filled j)) ∧
      ∀ n, Exact n j → ofText? (j.pretty 0) = some (c.filled j)) ∧
    ofText? c.print = some c ∧
    (∀ before after, "build" ∉ (before ++ after).map Prod.fst →
      ofJson? (.object (before ++ ("build", .object []) :: after)) =
        ofJson? (.object (before ++ after)) ∧
      ∀ inner outer, "compiler" ∉ (inner ++ outer).map Prod.fst →
        ofJson? (.object (before ++
            ("build", .object (inner ++ ("compiler", .object []) :: outer)) :: after)) =
          ofJson? (.object (before ++ ("build", .object (inner ++ outer)) :: after))) ∧
    (∀ before after, "escaping" ∉ (before ++ after).map Prod.fst →
      ofJson? (.object (before ++ ("escaping", .object []) :: after)) =
        ofJson? (.object (before ++ after))) ∧
    ∀ (p : Path) (d d' : Disk) (made : Config), d.holds p = false →
      loadOrCreate p d = (.ok made, d') →
      ∃ loc x, d'.at? p = some (loc, .file (.ofText made.print) x) ∧
        (loadOrCreate p d').2 = d' ∧
        (d.refuses .read loc = none → loadOrCreate p d' = (.ok made, d')) := by
  refine ⟨fun j hj => ⟨fun t ht => ?_, fun n hn => ?_⟩, ofText?_of_print hc,
    fun before after hname => ⟨?_, fun inner outer hinner => ?_⟩, fun before after hname => ?_, ?_⟩
  · have hread : ofText? t = some (c.filled j) := by
      rw [ofText?, ht, Option.bind_some, ofJson?_thinned hc hj]
    exact ⟨hread, by rw [ofBytes?_ofText, hread]⟩
  · rw [ofText?, ofText?_pretty hn, Option.bind_some, ofJson?_thinned hc hj]
  · exact ofJson?_around_build (o := some (.object [])) (u := none) hname Build.ofJson?_empty
  · have hcompiler := Build.ofJson?_around (o := some (.object [])) (u := none) hinner
      Compiler.ofJson?_empty
    exact ofJson?_around_build (o := some (around inner outer "compiler" (some (.object []))))
      (u := some (around inner outer "compiler" none)) hname hcompiler
  · exact ofJson?_around_escaping (o := some (.object [])) (u := none) hname
      Escaping.ofJson?_empty
  · intro p d d' made hp hmade
    obtain ⟨rfl, hwrite⟩ := loadOrCreate_of_not_holds hp hmade
    obtain ⟨loc, x, hat, hrefuses⟩ := Disk.at?_of_write hp hwrite
    have hagain := loadOrCreate_of_file default_fits hat
    rw [hrefuses] at hagain
    exact ⟨loc, x, hat, hagain⟩

theorem decoding_undoes_encoding_lookup :
    ofText? (pretty 0 (.object
      [("comment", .array []),
        ("build", .object [("package_lookup", .null), ("compiler", .object [])])])) =
      some { build := { packageLookup := none } } := by
  have hfits : Fits { build :=
      { packageLookup := none, generateStubs := false, compiler := { program := "latexmk" } } } :=
    ⟨⟨by decide, by decide⟩, by decide⟩
  have hexact : Exact 3 (.object
      [("comment", .array []),
        ("build", .object [("package_lookup", .null), ("compiler", .object [])])]) :=
    exact_record ⟨.array (by simp), exact_record ⟨.null 1, .object (by simp)⟩⟩
  refine ((decoding_undoes_encoding hfits).1 _ ?_).2 3 hexact
  refine .object (by simp) (List.forall_iff_forall_mem.mp ⟨fun j hj => ?_, ?_, ?_⟩)
  · have hcompiler : Thinned (Compiler.toJson { program := "latexmk" }) (.object []) :=
      .object (by simp) (by simp)
    simp only [List.lookup_cons, String.reduceBEq, Option.mem_def, Option.some.injEq] at hj
    subst hj
    refine .object (by simp) (List.forall_iff_forall_mem.mp ?_)
    simp [List.lookup_cons, hcompiler, Thinned.same, ofOption]
  · simp [List.lookup_cons]
  · simp [List.lookup_cons]

end Manuscript.Config
