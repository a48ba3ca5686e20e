import TidyCsv.Proofs.Engine.Appraisal
import TidyCsv.Proofs.Gzip.Members

/-! # Archives of several members

A gzip file may be a series of members. The built-in engine reads the content of the first one and
passes over the others, and it fails for none of them. -/

namespace TidyCsv.BuiltIn

variable {network : Network} {fs : FileSystem} {source : Source} {archive content : Bytes}
  {output reject plain : Path}

theorem gunzip_eq_ok_iff :
    gunzip archive = .ok content ↔ Gzip.decompress archive = .ok content := by
  unfold gunzip
  split
  · next hsame => simp [hsame]
  · next hrefused => simp [hrefused]

/-- A source that is a gzip file, in storage or behind a URL. -/
inductive Packs (network : Network) (fs : FileSystem) : Source → Bytes → Prop
  | stored {path : Path} {archive : Bytes} (hread : fs.read path = .ok archive) :
      Packs network fs (.compressed path .gzip) archive
  | fetched {url : String} {archive : Bytes} (hfetch : network.fetch url = .ok archive)
      (hgzip : Compression.ofPath? (String.ofList (Url.beforeQuery url.toList)) = some .gzip) :
      Packs network fs (.remote url) archive

theorem Packs.loads (h : Packs network fs source archive)
    (hcontent : Gzip.decompress archive = .ok content) : Loads network fs source content := by
  cases h with
  | stored hread =>
      exact loads_compressed_iff.mpr ⟨rfl, archive, hread, gunzip_eq_ok_iff.mpr hcontent⟩
  | fetched hfetch hgzip =>
      refine ⟨.content content, ?_, rfl⟩
      simp [load, loadRemote, hfetch, hgzip, gunzip_eq_ok_iff.mpr hcontent, Except.map]

theorem Packs.apart (h : Packs network fs source archive) (kept rejected : Location) :
    Apart fs.home source kept rejected := by
  rintro path rfl
  cases h

/-- Of a gzip file whose members are given, each with its content, the engine reads the content of
the first one, as it reads a plain file with that content. This is the whole content exactly if the
other members have none. -/
theorem validate_joined {first : Bytes × Bytes} {others : List (Bytes × Bytes)}
    (hpacks : Packs network fs source ((first :: others).flatMap Prod.fst))
    (hmembers : ∀ member ∈ first :: others, Gzip.decompress member.1 = .ok member.2)
    (hplain : fs.read plain = .ok first.2)
    (hoff : plain.location fs.home ≠ output.location fs.home)
    (hoff' : plain.location fs.home ≠ reject.location fs.home) (options : ReadOptions) :
    Loads network fs source first.2 ∧
      (Loads network fs source ((first :: others).flatMap Prod.snd) ↔
        ∀ member ∈ others, member.2 = []) ∧
      (Engine.builtIn network).validate fs source options output reject =
        (Engine.builtIn network).validate fs (.file plain) options output reject := by
  have hfirst : Gzip.decompress ((first :: others).flatMap Prod.fst) = .ok first.2 := by
    rw [List.flatMap_cons]
    exact Gzip.decompress_append (hmembers first (by simp)) _
  have hloads := hpacks.loads hfirst
  refine ⟨hloads, ⟨fun hwhole => ?_, fun hempty => ?_⟩, ?_⟩
  · have hsame := hloads.unique hwhole
    rw [List.flatMap_cons, List.self_eq_append_right, List.flatMap_eq_nil_iff] at hsame
    exact hsame
  · rwa [List.flatMap_cons, List.flatMap_eq_nil_iff.mpr hempty, List.append_nil]
  · have hvalidate := validate_eq_of_loads options hloads (loads_file_iff.mpr hplain)
      (hpacks.apart _ _) (apart_file_iff.mpr ⟨hoff, hoff'⟩)
    simp only [Engine.builtIn, hvalidate]

/-! ## Two members, each of which is stored as it is -/

/-- The members of a gzip file, each with its content: a header with one row, and one more row. -/
def pairedMembers : List (Bytes × Bytes) := [
  ([0x1F, 0x8B, 0x08, 0x00, 0x00, 0x00, 0x00, 0x00, 0x04, 0x03, 0x01, 0x08, 0x00, 0xF7, 0xFF, 0x61,
    0x2C, 0x62, 0x0A, 0x31, 0x2C, 0x32, 0x0A, 0x7B, 0x07, 0x97, 0x0A, 0x08, 0x00, 0x00, 0x00],
    Utf8.ofString "a,b\n1,2\n"),
  ([0x1F, 0x8B, 0x08, 0x00, 0x00, 0x00, 0x00, 0x00, 0x04, 0x03, 0x01, 0x04, 0x00, 0xFB, 0xFF, 0x33,
    0x2C, 0x34, 0x0A, 0x3E, 0x2D, 0x72, 0xA9, 0x04, 0x00, 0x00, 0x00],
    Utf8.ofString "3,4\n")]

/-- A file system with the gzip file in it, and a plain file with the content of its first
member. -/
def pairedFiles : FileSystem :=
  ((FileSystem.empty []).put ["in.csv.gz"] (.file (pairedMembers.flatMap Prod.fst))).put ["in.csv"]
    (.file (Utf8.ofString "a,b\n1,2\n"))

/-- The row of the second member is neither kept nor rejected. -/
theorem validate_joined_pair :
    pairedFiles.read ⟨"in.csv.gz"⟩ = .ok (pairedMembers.flatMap Prod.fst) ∧
      (∀ member ∈ pairedMembers, Gzip.decompress member.1 = .ok member.2) ∧
      Loads .unreachable pairedFiles (.compressed ⟨"in.csv.gz"⟩ .gzip)
        (Utf8.ofString "a,b\n1,2\n") ∧
      ((Engine.builtIn .unreachable).validate pairedFiles (.compressed ⟨"in.csv.gz"⟩ .gzip) {}
        ⟨"out.csv"⟩ ⟨"rejected.csv"⟩).1 = .ok ⟨1, 0, 2, none⟩ := by
  have hread : pairedFiles.read ⟨"in.csv.gz"⟩ = .ok (pairedMembers.flatMap Prod.fst) := by
    decide
  have hmembers : ∀ member ∈ pairedMembers, Gzip.decompress member.1 = .ok member.2 := by
    decide +kernel
  have hplain : pairedFiles.read ⟨"in.csv"⟩ = .ok (Utf8.ofString "a,b\n1,2\n") := by
    decide
  have hresult : ((Engine.builtIn .unreachable).validate pairedFiles (.file ⟨"in.csv"⟩) {}
      ⟨"out.csv"⟩ ⟨"rejected.csv"⟩).1 = .ok ⟨1, 0, 2, none⟩ := by decide +kernel
  have hoff : (Path.mk "in.csv").location [] ≠ (Path.mk "out.csv").location [] := by
    decide
  have hoff' : (Path.mk "in.csv").location [] ≠ (Path.mk "rejected.csv").location [] := by
    decide
  obtain ⟨hloads, -, hsame⟩ :=
    validate_joined (.stored hread) hmembers hplain hoff hoff' {}
  refine ⟨hread, hmembers, hloads, ?_⟩
  rw [hsame, hresult]

end TidyCsv.BuiltIn
