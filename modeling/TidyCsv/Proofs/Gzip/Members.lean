import TidyCsv.Gzip.Member

/-! # The members of a gzip file

A reader of compressed data that succeeds has not looked at what follows, so more whole bytes after
it make no difference. This is shown of each reader from the numbers up, and in the end of
decompression: joined members decompress to the content of the first one. -/

namespace TidyCsv.Gzip

/-! ## Readers of bits -/

/-- A reader that succeeds leaves more whole bytes as they are, if there are any behind the data. -/
structure Steady {α : Type} (read : Bits → Except Fault (α × Bits)) : Prop where
  append : ∀ {bits : Bits} {a : α} {rest : Bits}, read bits = .ok (a, rest) →
    ∀ more : Bits, more.length % 8 = 0 → read (bits ++ more) = .ok (a, rest ++ more)

namespace Steady

variable {α β : Type} {read : Bits → Except Fault (α × Bits)}

theorem ok (a : α) : Steady fun bits => .ok (a, bits) := by
  refine ⟨fun h more _ => ?_⟩
  obtain ⟨rfl, rfl⟩ := Prod.mk.inj (Except.ok.inj h)
  rfl

theorem error (fault : Fault) : Steady fun _ => (.error fault : Except Fault (α × Bits)) := by
  refine ⟨fun h => ?_⟩
  cases h

theorem bind {next : α × Bits → Except Fault (β × Bits)} (hread : Steady read)
    (hnext : ∀ a, Steady fun bits => next (a, bits)) : Steady fun bits => read bits >>= next := by
  refine ⟨fun {bits b rest} h more hmore => ?_⟩
  cases hfirst : read bits with
  | error fault => simp [hfirst, Bind.bind, Except.bind] at h
  | ok found =>
      obtain ⟨a, middle⟩ := found
      simp only [hfirst, hread.append hfirst more hmore, Bind.bind, Except.bind] at h ⊢
      exact (hnext a).append h more hmore

theorem ite {p : Prop} [Decidable p] {other : Bits → Except Fault (α × Bits)}
    (hread : Steady read) (hother : Steady other) :
    Steady fun bits => if p then read bits else other bits := by
  split
  · exact hread
  · exact hother

end Steady

theorem steady_readNumber (n : Nat) : Steady (readNumber n) := by
  induction n with
  | zero => exact .ok 0
  | succ n ih =>
      refine ⟨fun {bits a rest} h more hmore => ?_⟩
      cases bits with
      | nil => simp [readNumber] at h
      | cons bit bits =>
          exact (ih.bind fun number => .ok (bit.toNat + 2 * number)).append h more hmore

theorem Code.steady_readFrom (symbols : Array Nat) (counts : List Nat) :
    ∀ word first index, Steady (Code.readFrom symbols word first index counts) := by
  induction counts with
  | nil =>
      refine fun word first index => ⟨fun h => ?_⟩
      simp [Code.readFrom] at h
  | cons count counts ih =>
      refine fun word first index => ⟨fun {bits a rest} h more hmore => ?_⟩
      cases bits with
      | nil => simp [Code.readFrom] at h
      | cons bit bits =>
          simp only [List.cons_append, Code.readFrom] at h ⊢
          split
          · next hword =>
              rw [if_pos hword] at h
              split at h
              · next symbol hsymbol =>
                  obtain ⟨rfl, rfl⟩ := Prod.mk.inj (Except.ok.inj h)
                  rfl
              · simp at h
          · next hword =>
              rw [if_neg hword] at h
              exact (ih _ _ _).append h more hmore

theorem Code.steady_read (code : Code) : Steady code.read :=
  Code.steady_readFrom code.symbols code.counts 0 0 0

theorem steady_readExtra (table : Array (Nat × Nat)) (symbol : Nat) :
    Steady (readExtra table symbol) := by
  unfold readExtra
  cases table[symbol]? with
  | none => exact .error .corrupt
  | some entry =>
      obtain ⟨least, extra⟩ := entry
      exact (steady_readNumber extra).bind fun n => .ok (least + n)

theorem steady_readTriples (n : Nat) : Steady (readTriples n) := by
  induction n with
  | zero => exact .ok []
  | succ n ih =>
      change Steady fun bits => readTriples (n + 1) bits
      unfold readTriples
      exact (steady_readNumber 3).bind fun first => ih.bind fun rest => .ok (first :: rest)

theorem steady_readLengths (code : Code) (wanted fuel : Nat) :
    ∀ done, Steady (readLengths code wanted fuel done) := by
  induction fuel with
  | zero => exact fun done => .error .incomplete
  | succ fuel ih =>
      intro done
      change Steady fun bits => readLengths code wanted (fuel + 1) done bits
      unfold readLengths
      refine .ite (.error .corrupt) (.ite (.ok done.reverse) ?_)
      refine code.steady_read.bind fun symbol => ?_
      refine .ite (ih _) ?_
      refine .ite ?_ ?_
      · cases done with
        | nil => exact .error .corrupt
        | cons last done => exact (steady_readNumber 2).bind fun n => ih _
      · refine .ite ?_ ?_
        · exact (steady_readNumber 3).bind fun n => ih _
        · exact (steady_readNumber 7).bind fun n => ih _

theorem steady_readCodes : Steady readCodes := by
  change Steady fun bits => readCodes bits
  unfold readCodes
  refine (steady_readNumber 5).bind fun literals => ?_
  refine (steady_readNumber 5).bind fun distances => ?_
  refine (steady_readNumber 4).bind fun triples => ?_
  refine .ite (.error .corrupt) ?_
  refine (steady_readTriples (4 + triples)).bind fun lengths => ?_
  refine .ite (.error .corrupt) ?_
  refine (steady_readLengths _ _ _ _).bind fun all => ?_
  exact .ite (.error .corrupt) (.ok _)

theorem steady_readStored (n : Nat) : ∀ output, Steady (readStored n output) := by
  induction n with
  | zero => exact fun output => .ok output
  | succ n ih =>
      refine fun output => ⟨fun {bits stored rest} h more hmore => ?_⟩
      unfold readStored at h
      split at h
      · simp_all
      · next hn =>
          obtain rfl := Nat.succ.inj hn
          exact (ih _).append h more hmore
      · simp at h

/-- Whole bytes behind the data do not move the start of the next byte. -/
theorem Steady.aligned {α : Type} {read : Bits → Except Fault (α × Bits)} (hread : Steady read) :
    Steady fun bits => read (bits.drop (bits.length % 8)) := by
  refine ⟨fun {bits a rest} h more hmore => ?_⟩
  have hlength : (bits ++ more).length % 8 = bits.length % 8 := by
    rw [List.length_append]
    omega
  rw [hlength, List.drop_append_of_le_length (Nat.mod_le _ _)]
  exact hread.append h more hmore

theorem steady_readStoredBlock (output : Output) : Steady (readStoredBlock output) := by
  change Steady fun bits => readStoredBlock output bits
  unfold readStoredBlock
  refine Steady.aligned ((steady_readNumber 16).bind fun length => ?_)
  refine (steady_readNumber 16).bind fun complement => ?_
  exact .ite (.error .corrupt) (steady_readStored length output)

/-! ## Readers with fuel -/

/-- Where more fuel does no harm, a reader may have as much as there are bits. -/
theorem Steady.fueled {α : Type} {read : Nat → Bits → Except Fault (α × Bits)}
    (hread : ∀ fuel, Steady (read fuel))
    (hmore : ∀ fuel bits result, read fuel bits = .ok result → read (fuel + 1) bits = .ok result) :
    Steady fun bits => read (bits.length + 1) bits := by
  have hfuel : ∀ {fuel fuel' bits result}, fuel ≤ fuel' → read fuel bits = .ok result →
      read fuel' bits = .ok result := by
    intro fuel fuel' bits result hle h
    induction hle with
    | refl => exact h
    | step _ ih => exact hmore _ _ _ ih
  refine ⟨fun {bits a rest} h more hwhole => ?_⟩
  exact hfuel (by simp) ((hread _).append h more hwhole)

theorem readSymbols_succ (codes : Codes) (fuel : Nat) (output : Output) (bits : Bits) :
    readSymbols codes (fuel + 1) output bits =
      codes.literals.read bits >>= fun (symbol, bits) =>
        if symbol < 256 then readSymbols codes fuel (output.push (UInt8.ofNat symbol)) bits
        else if symbol = 256 then .ok (output, bits)
        else
          readExtra lengthTable (symbol - 257) bits >>= fun (length, bits) =>
            codes.distances.read bits >>= fun (symbol, bits) =>
              readExtra distanceTable symbol bits >>= fun (distance, bits) =>
                readSymbols codes fuel (output.copy distance length) bits := by
  rw [readSymbols]
  cases codes.literals.read bits with
  | error fault => rfl
  | ok found =>
      simp only [Bind.bind, Except.bind]
      split
      · rfl
      split
      · rfl
      cases readExtra lengthTable (found.1 - 257) found.2 with
      | error fault => rfl
      | ok found =>
          dsimp only
          cases codes.distances.read found.2 with
          | error fault => rfl
          | ok found =>
              dsimp only
              cases readExtra distanceTable found.1 found.2 with
              | error fault => rfl
              | ok found => rfl

theorem steady_readSymbols (codes : Codes) (fuel : Nat) :
    ∀ output, Steady (readSymbols codes fuel output) := by
  induction fuel with
  | zero => exact fun output => .error .incomplete
  | succ fuel ih =>
      intro output
      rw [funext (readSymbols_succ codes fuel output)]
      refine codes.literals.steady_read.bind fun symbol => ?_
      refine .ite (ih _) ?_
      refine .ite (.ok output) ?_
      refine (steady_readExtra lengthTable _).bind fun length => ?_
      refine codes.distances.steady_read.bind fun symbol => ?_
      exact (steady_readExtra distanceTable _).bind fun distance => ih _

theorem bind_eq_ok {ε α β : Type} {first : Except ε α} {next : α → Except ε β} {b : β} :
    first >>= next = .ok b ↔ ∃ a, first = .ok a ∧ next a = .ok b := by
  cases first with
  | error fault => simp [Bind.bind, Except.bind]
  | ok a => simp [Bind.bind, Except.bind]

theorem readSymbols_add_one {codes : Codes} {fuel : Nat} {result : Output × Bits} :
    ∀ {output bits}, readSymbols codes fuel output bits = .ok result →
      readSymbols codes (fuel + 1) output bits = .ok result := by
  induction fuel with
  | zero => simp [readSymbols]
  | succ fuel ih =>
      intro output bits h
      rw [readSymbols_succ] at h ⊢
      obtain ⟨⟨symbol, bits⟩, hsymbol, h⟩ := bind_eq_ok.1 h
      refine bind_eq_ok.2 ⟨(symbol, bits), hsymbol, ?_⟩
      dsimp only at h ⊢
      split at h
      · rw [if_pos ‹_›]
        exact ih h
      rw [if_neg ‹_›]
      split at h
      · rwa [if_pos ‹_›]
      rw [if_neg ‹_›]
      obtain ⟨length, hlength, h⟩ := bind_eq_ok.1 h
      obtain ⟨symbol, hsymbol, h⟩ := bind_eq_ok.1 h
      obtain ⟨distance, hdistance, h⟩ := bind_eq_ok.1 h
      refine bind_eq_ok.2 ⟨length, hlength, bind_eq_ok.2 ⟨symbol, hsymbol, ?_⟩⟩
      exact bind_eq_ok.2 ⟨distance, hdistance, ih h⟩

theorem steady_readBlock (output : Output) : Steady (readBlock output) := by
  have hsymbols (codes : Codes) :
      Steady fun bits => readSymbols codes (bits.length + 1) output bits :=
    .fueled (fun fuel => steady_readSymbols codes fuel output) fun _ _ _ => readSymbols_add_one
  change Steady fun bits => readBlock output bits
  unfold readBlock
  refine (steady_readNumber 2).bind fun kind => ?_
  refine .ite (steady_readStoredBlock output) ?_
  refine .ite (hsymbols .standard) ?_
  exact .ite (steady_readCodes.bind hsymbols) (.error .corrupt)

theorem steady_readBlocks (fuel : Nat) : ∀ output, Steady (readBlocks fuel output) := by
  induction fuel with
  | zero => exact fun output => .error .incomplete
  | succ fuel ih =>
      intro output
      change Steady fun bits => readBlocks (fuel + 1) output bits
      unfold readBlocks
      refine (steady_readNumber 1).bind fun last => ?_
      exact (steady_readBlock output).bind fun output => .ite (.ok output) (ih output)

theorem readBlocks_add_one {fuel : Nat} {result : Output × Bits} :
    ∀ {output bits}, readBlocks fuel output bits = .ok result →
      readBlocks (fuel + 1) output bits = .ok result := by
  induction fuel with
  | zero => simp [readBlocks]
  | succ fuel ih =>
      intro output bits h
      rw [readBlocks] at h ⊢
      obtain ⟨last, hlast, h⟩ := bind_eq_ok.1 h
      obtain ⟨⟨output, bits⟩, hblock, h⟩ := bind_eq_ok.1 h
      refine bind_eq_ok.2 ⟨last, hlast, bind_eq_ok.2 ⟨(output, bits), hblock, ?_⟩⟩
      dsimp only at h ⊢
      split at h
      · rwa [if_pos ‹_›]
      · rw [if_neg ‹_›]
        exact ih h

/-! ## Bytes -/

theorem bitsOf_append (bytes more : Bytes) : bitsOf (bytes ++ more) = bitsOf bytes ++ bitsOf more :=
  List.flatMap_append

theorem length_bitsOf (bytes : Bytes) : (bitsOf bytes).length = 8 * bytes.length := by
  induction bytes with
  | nil => rfl
  | cons b bytes ih =>
      rw [bitsOf, List.flatMap_cons, List.length_append, ← bitsOf, ih]
      simp
      omega

theorem inflate_append {bytes content rest : Bytes} (h : inflate bytes = .ok (content, rest))
    (more : Bytes) : inflate (bytes ++ more) = .ok (content, rest ++ more) := by
  have hblocks : Steady fun bits => readBlocks (bits.length + 1) #[] bits :=
    .fueled (fun fuel => steady_readBlocks fuel #[]) fun _ _ _ => readBlocks_add_one
  unfold inflate at h ⊢
  obtain ⟨⟨output, left⟩, hread, h⟩ := bind_eq_ok.1 h
  obtain ⟨rfl, rfl⟩ := Prod.mk.inj (Except.ok.inj h)
  have hmore : (bitsOf more).length = 8 * more.length := length_bitsOf more
  refine bind_eq_ok.2 ⟨(output, left ++ bitsOf more), ?_, ?_⟩
  · rw [bitsOf_append]
    exact hblocks.append hread _ (by omega)
  · have hleft : (left ++ bitsOf more).length / 8 = left.length / 8 + more.length := by
      rw [List.length_append, hmore]
      omega
    have hstart : (bytes ++ more).length - (left.length / 8 + more.length)
        = bytes.length - left.length / 8 := by
      rw [List.length_append]
      omega
    dsimp only
    rw [hleft, hstart, List.drop_append_of_le_length (Nat.sub_le _ _)]

/-! ## Members -/

variable {bytes content rest taken : Bytes}

theorem splitBytes_append {n : Nat} (h : splitBytes n bytes = .ok (taken, rest)) (more : Bytes) :
    splitBytes n (bytes ++ more) = .ok (taken, rest ++ more) := by
  unfold splitBytes at h ⊢
  split at h
  · simp at h
  · next hlength =>
      rw [List.splitAt_eq] at h
      obtain ⟨rfl, rfl⟩ := Prod.mk.inj (Except.ok.inj h)
      rw [if_neg (by rw [List.length_append]; omega), List.splitAt_eq,
        List.take_append_of_le_length (by omega), List.drop_append_of_le_length (by omega)]

theorem skipText_append (h : skipText bytes = .ok rest) (more : Bytes) :
    skipText (bytes ++ more) = .ok (rest ++ more) := by
  unfold skipText at h ⊢
  dsimp only at h ⊢
  split at h
  · simp at h
  · next hlong =>
      split at h
      · simp at h
      · next zero left hdrop =>
          obtain rfl := Except.ok.inj h
          -- so the text ends before the end of the bytes
          have hend : (bytes.takeWhile (· != 0)).length < bytes.length := by
            rw [← Nat.not_le]
            intro hall
            simp [List.drop_eq_nil_of_le hall] at hdrop
          rw [List.takeWhile_append, if_neg (Nat.ne_of_lt hend), if_neg hlong,
            List.drop_append_of_le_length (Nat.le_of_lt hend), hdrop]
          rfl

theorem skipExtra_append (h : skipExtra bytes = .ok rest) (more : Bytes) :
    skipExtra (bytes ++ more) = .ok (rest ++ more) := by
  unfold skipExtra at h ⊢
  obtain ⟨⟨size, middle⟩, hsize, h⟩ := bind_eq_ok.1 h
  obtain ⟨⟨field, last⟩, hfield, h⟩ := bind_eq_ok.1 h
  obtain rfl := Except.ok.inj h
  exact bind_eq_ok.2 ⟨_, splitBytes_append hsize more,
    bind_eq_ok.2 ⟨_, splitBytes_append hfield more, rfl⟩⟩

theorem checkHeader_append (h : checkHeader bytes rest = .ok taken) (more : Bytes) :
    checkHeader (bytes ++ more) (rest ++ more) = .ok (taken ++ more) := by
  have hcovered : (bytes ++ more).take ((bytes ++ more).length - (rest ++ more).length)
      = bytes.take (bytes.length - rest.length) := by
    rw [List.length_append, List.length_append, Nat.add_sub_add_right,
      List.take_append_of_le_length (Nat.sub_le _ _)]
  unfold checkHeader at h ⊢
  obtain ⟨⟨found, last⟩, hfound, h⟩ := bind_eq_ok.1 h
  refine bind_eq_ok.2 ⟨_, splitBytes_append hfound more, ?_⟩
  dsimp only at h ⊢
  rw [hcovered]
  split at h
  · obtain rfl := Except.ok.inj h
    rw [if_pos ‹_›]
  · simp at h

/-- A field that a header may have leaves what follows the member as it is, if the rest does. -/
theorem optional_append {more : Bytes} {flag : Bool}
    {field next next' : Bytes → Except Refusal Bytes}
    (hfield : ∀ {bytes rest}, field bytes = .ok rest → field (bytes ++ more) = .ok (rest ++ more))
    (hnext : ∀ {bytes rest}, next bytes = .ok rest → next' (bytes ++ more) = .ok (rest ++ more))
    (h : (if flag then field bytes >>= next else pure bytes >>= next) = .ok rest) :
    (if flag then field (bytes ++ more) >>= next' else pure (bytes ++ more) >>= next') =
      .ok (rest ++ more) := by
  cases flag with
  | false => exact hnext h
  | true =>
      obtain ⟨middle, hmiddle, h⟩ := bind_eq_ok.1 h
      exact bind_eq_ok.2 ⟨_, hfield hmiddle, hnext h⟩

theorem afterHeader_append (h : afterHeader bytes = .ok rest) (more : Bytes) :
    afterHeader (bytes ++ more) = .ok (rest ++ more) := by
  unfold afterHeader at h ⊢
  obtain ⟨⟨fixed, middle⟩, hfixed, h⟩ := bind_eq_ok.1 h
  refine bind_eq_ok.2 ⟨_, splitBytes_append hfixed more, ?_⟩
  have hlast : ∀ {flag : Bool} {left last : Bytes},
      (if flag then checkHeader bytes left else pure left) = .ok last →
        (if flag then checkHeader (bytes ++ more) (left ++ more) else pure (left ++ more)) =
          .ok (last ++ more) := by
    intro flag left last hcheck
    cases flag with
    | false =>
        obtain rfl := Except.ok.inj hcheck
        rfl
    | true => exact checkHeader_append hcheck more
  have htext : ∀ {bytes rest : Bytes}, skipText bytes = .ok rest →
      skipText (bytes ++ more) = .ok (rest ++ more) := fun h => skipText_append h more
  dsimp only at h ⊢
  split
  · next magic1 magic2 method flags tail =>
      dsimp only at h
      split
      · next hinvalid =>
          rw [if_pos hinvalid] at h
          cases h
      · next hvalid =>
          rw [if_neg hvalid] at h
          refine optional_append (fun h => skipExtra_append h more) ?_ h
          refine optional_append htext ?_
          exact optional_append htext hlast
  · simp at h

/-- A member is read as before whatever follows it. -/
theorem decompress_append (h : decompress bytes = .ok content) (more : Bytes) :
    decompress (bytes ++ more) = .ok content := by
  unfold decompress at h ⊢
  obtain ⟨data, hdata, h⟩ := bind_eq_ok.1 h
  refine bind_eq_ok.2 ⟨_, afterHeader_append hdata more, ?_⟩
  split at h
  · simp at h
  · next output left houtput =>
      rw [inflate_append houtput more]
      dsimp only
      obtain ⟨⟨sum, middle⟩, hsum, h⟩ := bind_eq_ok.1 h
      obtain ⟨⟨size, last⟩, hsize, h⟩ := bind_eq_ok.1 h
      exact bind_eq_ok.2 ⟨_, splitBytes_append hsum more,
        bind_eq_ok.2 ⟨_, splitBytes_append hsize more, h⟩⟩

end TidyCsv.Gzip
