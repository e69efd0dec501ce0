import Opzava.Library.Base64
import Opzava.Library.Utf8

/-!
The multiplexed output of a Docker exec (`provisioning/docker-gateway-runtime.ts`): frames of a
header of eight bytes, with the stream and the length, and a payload.

* `readBoundedDockerStdout`: the stdout of a response, chunk by chunk.
* `dockerMultiplexedOutput`: the stdout and the stderr of a whole buffer.
* `scanByte`: the same byte by byte; `readChunk_scan` says that the chunks do not matter.
* `readBoundedDockerStdout_frames`: what is read of frames, whole or cut off.
-/

namespace Opzava.Provisioning

open Opzava.Library

/-- The kinds of a `DoctorScanReadFailure` that a reader throws. -/
inductive DockerReadFailure
  | malformed
  | oversized
  deriving DecidableEq

/-- `bytes.readUInt32BE(offset)`. -/
def readUInt32BE (bytes : List UInt8) (offset : ℕ) : ℕ :=
  match bytes.drop offset with
  | b₀ :: b₁ :: b₂ :: b₃ :: _ =>
      ((b₀.toNat * 256 + b₁.toNat) * 256 + b₂.toNat) * 256 + b₃.toNat
  | _ => 0

/-! ### The incremental reader -/

/-- Where a reader is: in a header, with its bytes so far (`header`), or in the payload of a stream
(`stream`, `remaining`). -/
inductive DemuxPoint
  | header (bytes : List UInt8) (short : bytes.length < 8)
  | payload (stream : UInt8) (remaining : ℕ) (more : 0 < remaining)

namespace DemuxPoint

/-- Before a frame. -/
def start : DemuxPoint := .header [] (by decide)

/-- After more bytes of a header. -/
def afterHeader (header : List UInt8) : Except DockerReadFailure DemuxPoint :=
  if short : header.length < 8 then .ok (.header header short)
  else
    let stream := header.headD 0
    if stream ≠ 1 ∧ stream ≠ 2 then .error .malformed
    else if more : 0 < readUInt32BE header 4 then .ok (.payload stream (readUInt32BE header 4) more)
    else .ok .start

/-- After more bytes of a payload. -/
def afterPayload (stream : UInt8) (remaining : ℕ) : DemuxPoint :=
  if more : 0 < remaining then .payload stream remaining more else .start

end DemuxPoint

/-- The reader; `stdout` is what was read, in parts. -/
structure DemuxState where
  point : DemuxPoint
  stdout : List (List UInt8)
  stdoutBytes : ℕ
  counted : stdoutBytes = stdout.flatten.length

def DemuxState.start : DemuxState := ⟨.start, [], 0, rfl⟩

/-- The reader after a chunk. -/
def readChunk (maxStdoutBytes : ℕ) (s : DemuxState) (chunk : List UInt8) :
    Except DockerReadFailure DemuxState :=
  if nonempty : chunk = [] then .ok s
  else
    match s with
    | ⟨.header header short, stdout, stdoutBytes, counted⟩ =>
        let take := min (8 - header.length) chunk.length
        match DemuxPoint.afterHeader (header ++ chunk.take take) with
        | .error failure => .error failure
        | .ok point =>
            readChunk maxStdoutBytes ⟨point, stdout, stdoutBytes, counted⟩ (chunk.drop take)
    | ⟨.payload stream remaining more, stdout, stdoutBytes, counted⟩ =>
        let take := min remaining chunk.length
        -- There is something to take: both are positive.
        if stream = 1 then
          if maxStdoutBytes < stdoutBytes + take then .error .oversized
          else
            readChunk maxStdoutBytes
              ⟨DemuxPoint.afterPayload stream (remaining - take), stdout ++ [chunk.take take],
                stdoutBytes + take, by simp [counted, take]⟩ (chunk.drop take)
        else
          -- Stream 2 is consumed and discarded.
          readChunk maxStdoutBytes
            ⟨DemuxPoint.afterPayload stream (remaining - take), stdout, stdoutBytes, counted⟩
            (chunk.drop take)
termination_by chunk.length
decreasing_by
  all_goals
    have hpos := List.length_pos_iff.mpr nonempty
    rw [List.length_drop]
    omega

/-- The reader after some chunks. -/
def readChunks (maxStdoutBytes : ℕ) :
    DemuxState → List (List UInt8) → Except DockerReadFailure DemuxState
  | s, [] => .ok s
  | s, chunk :: chunks =>
      match readChunk maxStdoutBytes s chunk with
      | .error failure => .error failure
      | .ok s' => readChunks maxStdoutBytes s' chunks

/-- `readBoundedDockerStdout` of the body of a response, by its chunks. -/
def readBoundedDockerStdout (body : Option (List (List UInt8))) (maxStdoutBytes : ℕ) :
    Except DockerReadFailure String :=
  match body with
  | none => .error .malformed
  | some chunks =>
      match readChunks maxStdoutBytes .start chunks with
      | .error failure => .error failure
      | .ok ⟨.header [] _, stdout, _, _⟩ => .ok (bufferText stdout.flatten)
      | .ok _ => .error .malformed

/-! ### The batch reader -/

structure DockerOutput where
  stdout : String
  stderr : String

/-- The loop of `dockerMultiplexedOutput`. -/
def demultiplex (buffer : List UInt8) (offset : ℕ) (stdout stderr : List (List UInt8)) :
    DockerOutput :=
  if offset + 8 ≤ buffer.length then
    let stream := (buffer.drop offset).headD 0
    let size := readUInt32BE buffer (offset + 4)
    let next := offset + 8 + size
    if buffer.length < next then ⟨bufferText buffer, ""⟩
    else
      let chunk := (buffer.drop (offset + 8)).take size
      if stream = 2 then demultiplex buffer next stdout (stderr ++ [chunk])
      else demultiplex buffer next (stdout ++ [chunk]) stderr
  else if offset ≠ buffer.length then ⟨bufferText buffer, ""⟩
  else ⟨bufferText stdout.flatten, bufferText stderr.flatten⟩
termination_by buffer.length - offset

def dockerMultiplexedOutput (buffer : List UInt8) : DockerOutput := demultiplex buffer 0 [] []

/-! ### Byte by byte -/

/-- The reader with what it has read in one piece. -/
structure DemuxScan where
  point : DemuxPoint
  out : List UInt8

/-- One byte. -/
def scanByte (maxStdoutBytes : ℕ) (s : DemuxScan) (byte : UInt8) :
    Except DockerReadFailure DemuxScan :=
  match s.point with
  | .header header _ => (DemuxPoint.afterHeader (header ++ [byte])).map (⟨·, s.out⟩)
  | .payload stream remaining _ =>
      if stream = 1 then
        if maxStdoutBytes < s.out.length + 1 then .error .oversized
        else .ok ⟨DemuxPoint.afterPayload stream (remaining - 1), s.out ++ [byte]⟩
      else .ok ⟨DemuxPoint.afterPayload stream (remaining - 1), s.out⟩

/-- Some bytes. -/
def scan (maxStdoutBytes : ℕ) (s : DemuxScan) (bytes : List UInt8) :
    Except DockerReadFailure DemuxScan := bytes.foldlM (scanByte maxStdoutBytes) s

def DemuxState.scan (s : DemuxState) : DemuxScan := ⟨s.point, s.stdout.flatten⟩

section Scan

variable {maxStdoutBytes : ℕ} {out : List UInt8}

lemma scan_nil (s : DemuxScan) : scan maxStdoutBytes s [] = .ok s := rfl

lemma scan_cons (s : DemuxScan) (byte : UInt8) (bytes : List UInt8) :
    scan maxStdoutBytes s (byte :: bytes) =
      (scanByte maxStdoutBytes s byte).bind fun s' => scan maxStdoutBytes s' bytes :=
  List.foldlM_cons

lemma scan_append (s : DemuxScan) (bytes bytes' : List UInt8) :
    scan maxStdoutBytes s (bytes ++ bytes') =
      (scan maxStdoutBytes s bytes).bind fun s' => scan maxStdoutBytes s' bytes' :=
  List.foldlM_append

/-- Bytes of a header. -/
lemma scan_header {header bytes : List UInt8} (short : header.length < 8) (hne : bytes ≠ [])
    (hle : header.length + bytes.length ≤ 8) :
    scan maxStdoutBytes ⟨.header header short, out⟩ bytes =
      (DemuxPoint.afterHeader (header ++ bytes)).map (⟨·, out⟩) := by
  induction bytes generalizing header with
  | nil => exact absurd rfl hne
  | cons byte bytes ih =>
      rw [scan_cons, scanByte]
      dsimp only
      rw [List.length_cons] at hle
      cases bytes with
      | nil =>
          cases DemuxPoint.afterHeader (header ++ [byte]) with
          | error failure => rfl
          | ok point => rfl
      | cons byte' bytes =>
          have short' : (header ++ [byte]).length < 8 := by
            rw [List.length_cons] at hle
            rw [List.length_append, List.length_singleton]
            omega
          have hafter : DemuxPoint.afterHeader (header ++ [byte]) =
              .ok (.header (header ++ [byte]) short') := dif_pos short'
          have hle' : (header ++ [byte]).length + (byte' :: bytes).length ≤ 8 := by
            rw [List.length_append, List.length_singleton]
            omega
          rw [hafter]
          refine (ih short' (List.cons_ne_nil _ _) hle').trans ?_
          rw [List.append_assoc, List.singleton_append]

/-- Bytes of a payload. -/
lemma scan_payload {stream : UInt8} {remaining : ℕ} {bytes : List UInt8} (more : 0 < remaining)
    (hne : bytes ≠ []) (hle : bytes.length ≤ remaining) :
    scan maxStdoutBytes ⟨.payload stream remaining more, out⟩ bytes =
      if stream = 1 then
        if maxStdoutBytes < out.length + bytes.length then .error .oversized
        else .ok ⟨DemuxPoint.afterPayload stream (remaining - bytes.length), out ++ bytes⟩
      else .ok ⟨DemuxPoint.afterPayload stream (remaining - bytes.length), out⟩ := by
  induction bytes generalizing remaining out with
  | nil => exact absurd rfl hne
  | cons byte bytes ih =>
      rw [scan_cons, scanByte]
      dsimp only
      rw [List.length_cons] at hle ⊢
      cases bytes with
      | nil =>
          rw [List.length_nil, Nat.zero_add]
          split_ifs
          · rfl
          · rfl
          · rfl
      | cons byte' bytes =>
          have more' : 0 < remaining - 1 := by
            rw [List.length_cons] at hle
            omega
          have hafter : DemuxPoint.afterPayload stream (remaining - 1) =
              .payload stream (remaining - 1) more' := dif_pos more'
          have hle' : (byte' :: bytes).length ≤ remaining - 1 := by omega
          have hrest : remaining - 1 - (byte' :: bytes).length =
              remaining - ((byte' :: bytes).length + 1) := by omega
          rw [hafter]
          by_cases hstream : stream = 1
          · rw [if_pos hstream, if_pos hstream]
            by_cases hover : maxStdoutBytes < out.length + 1
            · rw [if_pos hover, if_pos (by omega)]
              rfl
            · rw [if_neg hover]
              refine (ih more' (List.cons_ne_nil _ _) hle').trans ?_
              rw [if_pos hstream, hrest, List.length_append, List.length_singleton, Nat.add_assoc,
                Nat.add_comm 1, List.append_assoc, List.singleton_append]
          · rw [if_neg hstream, if_neg hstream]
            refine (ih more' (List.cons_ne_nil _ _) hle').trans ?_
            rw [if_neg hstream, hrest]

lemma scan_take_drop (s : DemuxScan) (n : ℕ) (bytes : List UInt8) :
    scan maxStdoutBytes s bytes =
      (scan maxStdoutBytes s (bytes.take n)).bind fun s' =>
        scan maxStdoutBytes s' (bytes.drop n) := by
  rw [← scan_append, List.take_append_drop]

/-- **A chunk** is read as its bytes are, one after the other. -/
lemma readChunk_scan (s : DemuxState) (chunk : List UInt8) :
    (readChunk maxStdoutBytes s chunk).map DemuxState.scan =
      scan maxStdoutBytes s.scan chunk := by
  induction hn : chunk.length using Nat.strong_induction_on generalizing s chunk with
  | _ n ih =>
  subst hn
  by_cases hempty : chunk = []
  · subst hempty
    rw [readChunk.eq_def, dif_pos rfl]
    rfl
  · have hpos := List.length_pos_iff.mpr hempty
    rw [readChunk.eq_def, dif_neg hempty]
    obtain ⟨point, stdout, stdoutBytes, counted⟩ := s
    cases point with
    | header header short =>
        dsimp only
        have htake : chunk.take (min (8 - header.length) chunk.length) ≠ [] := by
          refine List.length_pos_iff.mp ?_
          rw [List.length_take]
          omega
        rw [DemuxState.scan, scan_take_drop _ (min (8 - header.length) chunk.length) chunk,
          scan_header short htake (by rw [List.length_take]; omega)]
        cases DemuxPoint.afterHeader
            (header ++ chunk.take (min (8 - header.length) chunk.length)) with
        | error failure => rfl
        | ok point => exact ih _ (by rw [List.length_drop]; omega) _ _ rfl
    | payload stream remaining more =>
        dsimp only
        have hlength : (chunk.take (min remaining chunk.length)).length =
            min remaining chunk.length := by
          rw [List.length_take]
          omega
        have htake : chunk.take (min remaining chunk.length) ≠ [] :=
          List.length_pos_iff.mp (by omega)
        rw [DemuxState.scan, scan_take_drop _ (min remaining chunk.length) chunk,
          scan_payload more htake (by omega), hlength]
        dsimp only
        rw [← counted]
        split_ifs with hstream hover
        · rfl
        · refine (ih _ (by rw [List.length_drop]; omega) _ _ rfl).trans ?_
          rw [DemuxState.scan, List.flatten_append, List.flatten_singleton]
          rfl
        · exact ih _ (by rw [List.length_drop]; omega) _ _ rfl

/-- **How the bytes are cut** into chunks does not matter. -/
lemma readChunks_scan (s : DemuxState) (chunks : List (List UInt8)) :
    (readChunks maxStdoutBytes s chunks).map DemuxState.scan =
      scan maxStdoutBytes s.scan chunks.flatten := by
  induction chunks generalizing s with
  | nil => rfl
  | cons chunk chunks ih =>
      rw [List.flatten_cons, scan_append, ← readChunk_scan, readChunks]
      cases readChunk maxStdoutBytes s chunk with
      | error failure => rfl
      | ok s' => exact ih s'

/-- The result after all bytes. -/
def scanResult (result : Except DockerReadFailure DemuxScan) : Except DockerReadFailure String :=
  match result with
  | .error failure => .error failure
  | .ok ⟨.header [] _, out⟩ => .ok (bufferText out)
  | .ok _ => .error .malformed

lemma readBoundedDockerStdout_scan (chunks : List (List UInt8)) (maxStdoutBytes : ℕ) :
    readBoundedDockerStdout (some chunks) maxStdoutBytes =
      scanResult (scan maxStdoutBytes ⟨.start, []⟩ chunks.flatten) := by
  have hscan := @readChunks_scan maxStdoutBytes .start chunks
  change _ = scanResult (scan maxStdoutBytes DemuxState.start.scan chunks.flatten)
  rw [← hscan, readBoundedDockerStdout]
  cases readChunks maxStdoutBytes .start chunks with
  | error failure => rfl
  | ok s =>
      obtain ⟨point, stdout, stdoutBytes, counted⟩ := s
      cases point with
      | header header short =>
          cases header with
          | nil => rfl
          | cons byte header => rfl
      | payload stream remaining more => rfl

end Scan

/-! ### Frames -/

/-- A number below 2³² in big-endian order. -/
def writeUInt32BE (n : ℕ) : List UInt8 :=
  [UInt8.ofNat (n / 16777216), UInt8.ofNat (n / 65536 % 256), UInt8.ofNat (n / 256 % 256),
    UInt8.ofNat (n % 256)]

/-- The header of a payload; three of its bytes are not used. -/
def dockerHeader (stderr : Bool) (unused : UInt8 × UInt8 × UInt8) (length : ℕ) : List UInt8 :=
  [if stderr then 2 else 1, unused.1, unused.2.1, unused.2.2] ++ writeUInt32BE length

/-- A frame of the stdout or the stderr. -/
structure DockerFrame where
  stderr : Bool
  unused : UInt8 × UInt8 × UInt8
  payload : List UInt8
  fits : payload.length < 4294967296

namespace DockerFrame

def stream (frame : DockerFrame) : UInt8 := if frame.stderr then 2 else 1

def header (frame : DockerFrame) : List UInt8 :=
  dockerHeader frame.stderr frame.unused frame.payload.length

def encode (frame : DockerFrame) : List UInt8 := frame.header ++ frame.payload

/-- What bytes of the payload add to the stdout. -/
def taken (frame : DockerFrame) (bytes : List UInt8) : List UInt8 :=
  if frame.stderr then [] else bytes

/-- What a frame adds to the stdout. -/
def stdout (frame : DockerFrame) : List UInt8 := frame.taken frame.payload

end DockerFrame

def encodeFrames (frames : List DockerFrame) : List UInt8 := frames.flatMap DockerFrame.encode

def stdoutOf (frames : List DockerFrame) : List UInt8 := frames.flatMap DockerFrame.stdout

section Frames

variable {maxStdoutBytes : ℕ} {out bytes rest : List UInt8} {frame : DockerFrame}
  {frames : List DockerFrame}

lemma readUInt32BE_write {n : ℕ} (h : n < 4294967296) (first : List UInt8) (rest : List UInt8) :
    readUInt32BE (first ++ (writeUInt32BE n ++ rest)) first.length = n := by
  rw [readUInt32BE, List.drop_left]
  simp only [writeUInt32BE, List.cons_append, List.nil_append]
  rw [toNat_ofNat_of_lt (by omega), toNat_ofNat_of_lt (by omega), toNat_ofNat_of_lt (by omega),
    toNat_ofNat_of_lt (by omega)]
  omega

@[simp] lemma header_length (frame : DockerFrame) : frame.header.length = 8 := rfl

lemma header_read (frame : DockerFrame) (rest : List UInt8) :
    readUInt32BE (frame.header ++ rest) 4 = frame.payload.length := by
  rw [DockerFrame.header, dockerHeader, List.append_assoc]
  exact readUInt32BE_write frame.fits [frame.stream, frame.unused.1, frame.unused.2.1,
    frame.unused.2.2] rest

lemma stream_cases (frame : DockerFrame) :
    (frame.stderr = false ∧ frame.stream = 1) ∨ (frame.stderr = true ∧ frame.stream = 2) := by
  unfold DockerFrame.stream
  cases frame.stderr with
  | false => exact .inl ⟨rfl, rfl⟩
  | true => exact .inr ⟨rfl, rfl⟩

/-- After the header of a frame. -/
lemma afterHeader_frame (frame : DockerFrame) : DemuxPoint.afterHeader frame.header =
    .ok (DemuxPoint.afterPayload frame.stream frame.payload.length) := by
  have hread := header_read frame []
  rw [List.append_nil] at hread
  have hknown : ¬ (frame.header.headD 0 ≠ 1 ∧ frame.header.headD 0 ≠ 2) := by
    rintro ⟨hone, htwo⟩
    rcases stream_cases frame with ⟨-, hstream⟩ | ⟨-, hstream⟩
    · exact hone hstream
    · exact htwo hstream
  rw [DemuxPoint.afterHeader, dif_neg (by rw [header_length]; omega), if_neg hknown, hread]
  unfold DemuxPoint.afterPayload
  split_ifs
  · rfl
  · rfl

lemma scan_frame_header (frame : DockerFrame) (out : List UInt8) :
    scan maxStdoutBytes ⟨.start, out⟩ frame.header =
      .ok ⟨DemuxPoint.afterPayload frame.stream frame.payload.length, out⟩ := by
  have hne : frame.header ≠ [] := List.cons_ne_nil _ _
  refine (scan_header (by decide) hne (by rw [header_length]; decide)).trans ?_
  rw [List.nil_append, afterHeader_frame]
  rfl

/-- The header of a frame with bytes of its payload. -/
lemma scan_frame_bytes (hout : out.length ≤ maxStdoutBytes)
    (hle : bytes.length ≤ frame.payload.length) :
    scan maxStdoutBytes ⟨.start, out⟩ (frame.header ++ bytes) =
      if maxStdoutBytes < out.length + (frame.taken bytes).length then .error .oversized
      else .ok ⟨DemuxPoint.afterPayload frame.stream (frame.payload.length - bytes.length),
        out ++ frame.taken bytes⟩ := by
  rw [scan_append, scan_frame_header]
  cases bytes with
  | nil =>
      have htaken : frame.taken [] = [] := ite_self _
      rw [htaken, if_neg (by simpa using hout), List.append_nil]
      rfl
  | cons byte bytes =>
      have hpositive : 0 < frame.payload.length := by
        rw [List.length_cons] at hle
        omega
      have hafter : DemuxPoint.afterPayload frame.stream frame.payload.length =
          .payload frame.stream frame.payload.length hpositive := dif_pos hpositive
      rw [hafter]
      refine (scan_payload hpositive (List.cons_ne_nil _ _) hle).trans ?_
      rcases stream_cases frame with ⟨hstderr, hstream⟩ | ⟨hstderr, hstream⟩
      · have htaken : frame.taken (byte :: bytes) = byte :: bytes :=
          if_neg (by rw [hstderr]; decide)
        rw [if_pos hstream, htaken]
      · have htaken : frame.taken (byte :: bytes) = [] := if_pos hstderr
        rw [if_neg (by rw [hstream]; decide), htaken, if_neg (by simpa using hout),
          List.append_nil]

/-- A whole frame. -/
lemma scan_frame (hout : out.length ≤ maxStdoutBytes) :
    scan maxStdoutBytes ⟨.start, out⟩ frame.encode =
      if maxStdoutBytes < out.length + frame.stdout.length then .error .oversized
      else .ok ⟨.start, out ++ frame.stdout⟩ := by
  have hafter : DemuxPoint.afterPayload frame.stream
      (frame.payload.length - frame.payload.length) = .start := dif_neg (by omega)
  rw [DockerFrame.encode, scan_frame_bytes hout le_rfl, hafter]
  rfl

/-- **Frames** add their stdout, as far as it fits. -/
lemma scan_frames (hout : out.length ≤ maxStdoutBytes) :
    scan maxStdoutBytes ⟨.start, out⟩ (encodeFrames frames) =
      if maxStdoutBytes < out.length + (stdoutOf frames).length then .error .oversized
      else .ok ⟨.start, out ++ stdoutOf frames⟩ := by
  induction frames generalizing out with
  | nil =>
      have hnone : stdoutOf [] = [] := rfl
      rw [hnone, if_neg (by simpa using hout), List.append_nil]
      rfl
  | cons frame frames ih =>
      have hencode : encodeFrames (frame :: frames) = frame.encode ++ encodeFrames frames :=
        List.flatMap_cons
      have hstdout : stdoutOf (frame :: frames) = frame.stdout ++ stdoutOf frames :=
        List.flatMap_cons
      rw [hencode, hstdout, scan_append, scan_frame hout, List.length_append]
      by_cases hover : maxStdoutBytes < out.length + frame.stdout.length
      · rw [if_pos hover, if_pos (by omega)]
        rfl
      · rw [if_neg hover]
        refine (ih (by rw [List.length_append]; omega)).trans ?_
        rw [List.length_append, Nat.add_assoc, List.append_assoc]

/-- Bytes that are cut off inside of a frame: a part of the first one that is not finished. -/
lemma cut_cases (hcuts : bytes <+: encodeFrames frames)
    (hcut : ∀ whole, whole <+: frames → bytes ≠ encodeFrames whole) :
    ∃ whole frame after part, frames = whole ++ frame :: after ∧
      bytes = encodeFrames whole ++ part ∧ part ≠ [] ∧ part <+: frame.encode ∧
        part ≠ frame.encode := by
  induction frames generalizing bytes with
  | nil => exact absurd (List.prefix_nil.mp hcuts) (hcut [] List.nil_prefix)
  | cons frame frames ih =>
      have hencode : encodeFrames (frame :: frames) = frame.encode ++ encodeFrames frames :=
        List.flatMap_cons
      rw [hencode] at hcuts
      rcases prefix_append_cases hcuts with ⟨hpart, hne⟩ | ⟨rest, rfl, hrest⟩
      · exact ⟨[], frame, frames, bytes, rfl, rfl, hcut [] List.nil_prefix, hpart, hne⟩
      · have hcut' : ∀ whole, whole <+: frames → rest ≠ encodeFrames whole := by
          rintro whole hwhole rfl
          exact hcut (frame :: whole) (List.cons_prefix_cons.mpr ⟨rfl, hwhole⟩)
            List.flatMap_cons.symm
        obtain ⟨whole, frame', after, part, rfl, rfl, hpart⟩ := ih hrest hcut'
        refine ⟨frame :: whole, frame', after, part, rfl, ?_, hpart⟩
        rw [← List.append_assoc]
        exact congrArg (· ++ part) List.flatMap_cons.symm

lemma scanResult_cut {point : DemuxPoint} (h : ∀ short, point ≠ .header [] short) :
    scanResult (.ok ⟨point, out⟩) = .error .malformed := by
  cases point with
  | header header short =>
      cases header with
      | nil => exact absurd rfl (h short)
      | cons byte header => rfl
  | payload stream remaining more => rfl

lemma stdoutOf_append (frames frames' : List DockerFrame) :
    stdoutOf (frames ++ frames') = stdoutOf frames ++ stdoutOf frames' := List.flatMap_append

lemma encodeFrames_append (frames frames' : List DockerFrame) :
    encodeFrames (frames ++ frames') = encodeFrames frames ++ encodeFrames frames' :=
  List.flatMap_append

lemma taken_length_le {part payload : List UInt8} (h : part.length ≤ payload.length) :
    (frame.taken part).length ≤ (frame.taken payload).length := by
  unfold DockerFrame.taken
  split_ifs
  · exact le_rfl
  · exact h

/-- **Frames that are cut off** are malformed. -/
lemma scan_cut (hcuts : bytes <+: encodeFrames frames)
    (hcut : ∀ whole, whole <+: frames → bytes ≠ encodeFrames whole)
    (hmax : (stdoutOf frames).length ≤ maxStdoutBytes) :
    scanResult (scan maxStdoutBytes ⟨.start, []⟩ bytes) = .error .malformed := by
  obtain ⟨whole, frame, after, part, rfl, rfl, hne, hpart, hpartNe⟩ := cut_cases hcuts hcut
  have hsingle : stdoutOf (frame :: after) = frame.stdout ++ stdoutOf after := List.flatMap_cons
  rw [stdoutOf_append, List.length_append, hsingle, List.length_append] at hmax
  have hwhole : scan maxStdoutBytes ⟨.start, []⟩ (encodeFrames whole) =
      .ok ⟨.start, stdoutOf whole⟩ := by
    refine (scan_frames (Nat.zero_le _)).trans ?_
    rw [List.length_nil, Nat.zero_add, if_neg (by omega), List.nil_append]
  rw [scan_append, hwhole]
  have hout : (stdoutOf whole).length ≤ maxStdoutBytes := by omega
  change scanResult (scan maxStdoutBytes ⟨.start, stdoutOf whole⟩ part) = _
  rcases prefix_append_cases hpart with ⟨hheader, hshort⟩ | ⟨rest, rfl, hrest⟩
  · -- It ends in the header.
    have hlength : part.length < 8 := by
      rcases lt_or_ge part.length 8 with h | h
      · exact h
      · exact absurd (hheader.eq_of_length_le h) hshort
    have hscan : scan maxStdoutBytes ⟨.start, stdoutOf whole⟩ part =
        .ok ⟨.header part hlength, stdoutOf whole⟩ := by
      refine (scan_header (by decide) hne (by rw [List.length_nil]; omega)).trans ?_
      rw [List.nil_append, DemuxPoint.afterHeader, dif_pos hlength]
      rfl
    refine (congrArg scanResult hscan).trans (scanResult_cut fun short heq => ?_)
    exact hne (DemuxPoint.header.inj heq)
  · -- It ends in the payload.
    have hlength : rest.length < frame.payload.length := by
      rcases lt_or_ge rest.length frame.payload.length with h | h
      · exact h
      · exact absurd (congrArg (frame.header ++ ·) (hrest.eq_of_length_le h)) hpartNe
    have htaken : (frame.taken rest).length ≤ frame.stdout.length := taken_length_le hlength.le
    rw [scan_frame_bytes hout hlength.le, if_neg (by omega)]
    refine scanResult_cut fun short heq => ?_
    unfold DemuxPoint.afterPayload at heq
    rw [dif_pos (by omega)] at heq
    cases heq

/-! ### What is read is frames -/

/-- The bytes a reader has seen are whole frames, and its header or a header with a part of its
payload. -/
def Seen (bytes : List UInt8) (s : DemuxScan) : Prop :=
  ∃ frames : List DockerFrame,
    match s.point with
    | .header header _ => bytes = encodeFrames frames ++ header ∧ s.out = stdoutOf frames
    | .payload stream remaining _ => ∃ stderr unused part,
        stream = (if stderr = true then 2 else 1) ∧ part.length + remaining < 4294967296 ∧
        bytes = encodeFrames frames ++
          (dockerHeader stderr unused (part.length + remaining) ++ part) ∧
        s.out = stdoutOf frames ++ if stderr = true then [] else part

/-- The eight bytes of a header. -/
lemma header_eq {header : List UInt8} (hlength : header.length = 8)
    (hstream : header.headD 0 = 1 ∨ header.headD 0 = 2) :
    ∃ stderr unused, header.headD 0 = (if stderr = true then 2 else 1) ∧
      readUInt32BE header 4 < 4294967296 ∧
      header = dockerHeader stderr unused (readUInt32BE header 4) := by
  obtain ⟨b₀, b₁, b₂, b₃, b₄, b₅, b₆, b₇, rfl⟩ : ∃ b₀ b₁ b₂ b₃ b₄ b₅ b₆ b₇,
      header = [b₀, b₁, b₂, b₃, b₄, b₅, b₆, b₇] := by
    match header, hlength with
    | [b₀, b₁, b₂, b₃, b₄, b₅, b₆, b₇], _ => exact ⟨b₀, b₁, b₂, b₃, b₄, b₅, b₆, b₇, rfl⟩
  have h₄ := b₄.toNat_lt
  have h₅ := b₅.toNat_lt
  have h₆ := b₆.toNat_lt
  have h₇ := b₇.toNat_lt
  have hread : readUInt32BE [b₀, b₁, b₂, b₃, b₄, b₅, b₆, b₇] 4 =
      ((b₄.toNat * 256 + b₅.toNat) * 256 + b₆.toNat) * 256 + b₇.toNat := rfl
  have hwrite : writeUInt32BE (((b₄.toNat * 256 + b₅.toNat) * 256 + b₆.toNat) * 256 + b₇.toNat) =
      [b₄, b₅, b₆, b₇] := by
    rw [writeUInt32BE, ofNat_of_eq b₄ (by omega), ofNat_of_eq b₅ (by omega),
      ofNat_of_eq b₆ (by omega), ofNat_of_eq b₇ (by omega)]
  rw [hread]
  rcases hstream with hone | htwo
  · refine ⟨false, (b₁, b₂, b₃), hone, by omega, ?_⟩
    rw [dockerHeader, hwrite, show b₀ = 1 from hone]
    rfl
  · refine ⟨true, (b₁, b₂, b₃), htwo, by omega, ?_⟩
    rw [dockerHeader, hwrite, show b₀ = 2 from htwo]
    rfl

/-- After some bytes of a payload, none or all of them included. -/
lemma seen_afterPayload (frames : List DockerFrame) (stderr : Bool)
    (unused : UInt8 × UInt8 × UInt8) (part : List UInt8) (remaining : ℕ)
    (hfits : part.length + remaining < 4294967296) :
    Seen (encodeFrames frames ++
        (dockerHeader stderr unused (part.length + remaining) ++ part))
      ⟨DemuxPoint.afterPayload (if stderr = true then 2 else 1) remaining,
        stdoutOf frames ++ if stderr = true then [] else part⟩ := by
  by_cases more : 0 < remaining
  · rw [DemuxPoint.afterPayload, dif_pos more]
    exact ⟨frames, stderr, unused, part, rfl, hfits, rfl, rfl⟩
  · obtain rfl : remaining = 0 := by omega
    rw [DemuxPoint.afterPayload, dif_neg more]
    refine ⟨frames ++ [⟨stderr, unused, part, hfits⟩], ?_, ?_⟩
    · rw [encodeFrames_append, List.append_nil]
      exact congrArg (encodeFrames frames ++ ·) (List.flatMap_singleton _ _).symm
    · rw [stdoutOf_append]
      exact congrArg (stdoutOf frames ++ ·) (List.flatMap_singleton _ _).symm

/-- One more byte. -/
lemma Seen.byte {s s' : DemuxScan} {byte : UInt8} (hseen : Seen bytes s)
    (h : scanByte maxStdoutBytes s byte = .ok s') : Seen (bytes ++ [byte]) s' := by
  obtain ⟨point, out⟩ := s
  obtain ⟨frames, hseen⟩ := hseen
  cases point with
  | header header short =>
      obtain ⟨rfl, rfl⟩ := hseen
      rw [scanByte] at h
      dsimp only at h
      rw [DemuxPoint.afterHeader] at h
      rw [List.append_assoc]
      by_cases hshort : (header ++ [byte]).length < 8
      · rw [dif_pos hshort] at h
        cases h
        exact ⟨frames, rfl, rfl⟩
      · rw [dif_neg hshort] at h
        dsimp only at h
        by_cases hstream : (header ++ [byte]).headD 0 ≠ 1 ∧ (header ++ [byte]).headD 0 ≠ 2
        · rw [if_pos hstream] at h
          cases h
        · rw [if_neg hstream] at h
          have hlength : (header ++ [byte]).length = 8 := by
            rw [List.length_append, List.length_singleton] at hshort ⊢
            omega
          have hknown : (header ++ [byte]).headD 0 = 1 ∨ (header ++ [byte]).headD 0 = 2 := by
            by_contra hcon
            exact hstream (not_or.mp hcon)
          obtain ⟨stderr, unused, hhead, hfits, hheader⟩ := header_eq hlength hknown
          generalize readUInt32BE (header ++ [byte]) 4 = remaining at h hfits hheader
          have hs' : s' = ⟨DemuxPoint.afterPayload (if stderr = true then 2 else 1) remaining,
              stdoutOf frames⟩ := by
            rw [DemuxPoint.afterPayload, ← hhead]
            by_cases more : 0 < remaining
            · rw [dif_pos more] at h ⊢
              cases h
              rfl
            · rw [dif_neg more] at h ⊢
              cases h
              rfl
          have hafter := seen_afterPayload frames stderr unused [] remaining
            (by rw [List.length_nil]; omega)
          rw [List.length_nil, Nat.zero_add, List.append_nil, ite_self, List.append_nil,
            ← hheader, ← hs'] at hafter
          exact hafter
  | payload stream remaining more =>
      obtain ⟨stderr, unused, part, rfl, hfits, rfl, rfl⟩ := hseen
      have hlength : (part ++ [byte]).length + (remaining - 1) = part.length + remaining := by
        rw [List.length_append, List.length_singleton]
        omega
      have hafter := seen_afterPayload frames stderr unused (part ++ [byte]) (remaining - 1)
        (by omega)
      rw [hlength] at hafter
      rw [scanByte] at h
      dsimp only at h
      cases stderr with
      | false =>
          have hstream : (if false = true then (2 : UInt8) else 1) = 1 := rfl
          rw [if_pos hstream, if_neg Bool.false_ne_true] at h
          by_cases hover : maxStdoutBytes < (stdoutOf frames ++ part).length + 1
          · rw [if_pos hover] at h
            cases h
          · rw [if_neg hover] at h
            cases h
            simpa only [Bool.false_eq_true, if_false, List.append_assoc] using hafter
      | true =>
          have hstream : (if true = true then (2 : UInt8) else 1) ≠ 1 := by decide
          rw [if_neg hstream] at h
          cases h
          simpa only [if_true, List.append_assoc] using hafter

/-- More bytes. -/
lemma Seen.scan {s s' : DemuxScan} {bytes' : List UInt8} (hseen : Seen bytes s)
    (h : scan maxStdoutBytes s bytes' = .ok s') : Seen (bytes ++ bytes') s' := by
  induction bytes' generalizing bytes s with
  | nil =>
      rw [scan_nil] at h
      cases h
      rw [List.append_nil]
      exact hseen
  | cons byte bytes' ih =>
      rw [scan_cons] at h
      cases hbyte : scanByte maxStdoutBytes s byte with
      | error failure =>
          rw [hbyte] at h
          cases h
      | ok next =>
          rw [hbyte] at h
          have hmore := ih (hseen.byte hbyte) h
          rw [List.append_assoc, List.singleton_append] at hmore
          exact hmore

/-- A text that is read is the stdout of frames. -/
lemma scanResult_ok {text : String}
    (h : scanResult (scan maxStdoutBytes ⟨.start, []⟩ bytes) = .ok text) :
    ∃ frames, bytes = encodeFrames frames ∧ text = bufferText (stdoutOf frames) := by
  cases hscan : Provisioning.scan maxStdoutBytes ⟨.start, []⟩ bytes with
  | error failure =>
      rw [hscan] at h
      cases h
  | ok s =>
      have hstart : Seen [] ⟨.start, []⟩ := ⟨[], rfl, rfl⟩
      have hseen := hstart.scan hscan
      rw [hscan] at h
      obtain ⟨point, out⟩ := s
      obtain ⟨frames, hframes⟩ := hseen
      cases point with
      | payload stream remaining more => cases h
      | header header short =>
          cases header with
          | cons byte header => cases h
          | nil =>
              obtain ⟨hbytes, rfl⟩ := hframes
              rw [List.nil_append, List.append_nil] at hbytes
              exact ⟨frames, hbytes, (Except.ok.inj h).symm⟩

/-! ### The batch reader on frames -/

/-- What a frame adds to the stderr. -/
def DockerFrame.stderrBytes (frame : DockerFrame) : List UInt8 :=
  if frame.stderr then frame.payload else []

/-- The loop of the batch reader, from a border of frames. -/
lemma demultiplex_frames (seen : List UInt8) (stdout stderr : List (List UInt8)) :
    demultiplex (seen ++ encodeFrames frames) seen.length stdout stderr =
      ⟨bufferText (stdout.flatten ++ stdoutOf frames),
        bufferText (stderr.flatten ++ frames.flatMap DockerFrame.stderrBytes)⟩ := by
  induction frames generalizing seen stdout stderr with
  | nil =>
      have hnone : encodeFrames [] = [] := rfl
      rw [hnone, List.append_nil, demultiplex.eq_def, if_neg (by omega), if_neg (by omega),
        List.flatMap_nil, List.append_nil, stdoutOf, List.flatMap_nil, List.append_nil]
  | cons frame frames ih =>
      have hencode : encodeFrames (frame :: frames) =
          frame.header ++ (frame.payload ++ encodeFrames frames) := by
        rw [encodeFrames, List.flatMap_cons, ← List.append_assoc]
        rfl
      have hdrop : (seen ++ (frame.header ++ (frame.payload ++ encodeFrames frames))).drop
          seen.length = frame.header ++ (frame.payload ++ encodeFrames frames) := List.drop_left
      have hdropHeader :
          (seen ++ (frame.header ++ (frame.payload ++ encodeFrames frames))).drop
            (seen.length + 8) = frame.payload ++ encodeFrames frames := by
        rw [← List.drop_drop, hdrop]
        exact List.drop_left' (header_length frame)
      have hsize : readUInt32BE (seen ++ (frame.header ++ (frame.payload ++ encodeFrames frames)))
          (seen.length + 4) = frame.payload.length := by
        rw [readUInt32BE, ← List.drop_drop, hdrop]
        exact header_read frame (frame.payload ++ encodeFrames frames)
      have hlength :
          (seen ++ (frame.header ++ (frame.payload ++ encodeFrames frames))).length =
            seen.length + 8 + frame.payload.length + (encodeFrames frames).length := by
        rw [List.length_append, List.length_append, List.length_append, header_length]
        omega
      have hnext : seen.length + 8 + frame.payload.length =
          (seen ++ (frame.header ++ frame.payload)).length := by
        rw [List.length_append, List.length_append, header_length, Nat.add_assoc]
      rw [hencode, demultiplex.eq_def, if_pos (by omega)]
      dsimp only
      rw [hsize, if_neg (by omega), hdropHeader, List.take_left, hdrop, hnext,
        ← List.append_assoc frame.header, ← List.append_assoc seen]
      have hstdout : stdoutOf (frame :: frames) = frame.stdout ++ stdoutOf frames :=
        List.flatMap_cons
      have hstderr : (frame :: frames).flatMap DockerFrame.stderrBytes =
          frame.stderrBytes ++ frames.flatMap DockerFrame.stderrBytes := List.flatMap_cons
      have hhead : (frame.header ++ frame.payload ++ encodeFrames frames).headD 0 =
          frame.stream := rfl
      rw [hhead, hstdout, hstderr]
      rcases stream_cases frame with ⟨hkind, hstream⟩ | ⟨hkind, hstream⟩
      · have hout : frame.stdout = frame.payload := if_neg (by rw [hkind]; decide)
        have herr : frame.stderrBytes = [] := if_neg (by rw [hkind]; decide)
        rw [if_neg (by rw [hstream]; decide), ih, hout, herr, List.flatten_append,
          List.flatten_singleton, List.append_assoc, List.nil_append]
      · have hout : frame.stdout = [] := if_pos hkind
        have herr : frame.stderrBytes = frame.payload := if_pos hkind
        rw [if_pos hstream, ih, hout, herr, List.flatten_append, List.flatten_singleton,
          List.append_assoc, List.nil_append]

/-- **Frames in one buffer** are taken apart. -/
lemma dockerMultiplexedOutput_frames (frames : List DockerFrame) :
    dockerMultiplexedOutput (encodeFrames frames) =
      ⟨bufferText (stdoutOf frames), bufferText (frames.flatMap DockerFrame.stderrBytes)⟩ :=
  demultiplex_frames [] [] []

end Frames

/-- **The stdout of an exec** is that of its frames, however their bytes come in chunks: it is the
text of the stdout payloads, which the batch reader returns as well, or `oversized`. Bytes that are
cut off in a frame are `malformed`, and whatever the bytes are, a text that is returned has the
bytes of stdout payloads only. -/
theorem readBoundedDockerStdout_frames (maxStdoutBytes : ℕ) :
    (∀ frames chunks, chunks.flatten = encodeFrames frames →
      readBoundedDockerStdout (some chunks) maxStdoutBytes =
        if (stdoutOf frames).length ≤ maxStdoutBytes then .ok (bufferText (stdoutOf frames))
        else .error .oversized) ∧
    (∀ frames, (dockerMultiplexedOutput (encodeFrames frames)).stdout =
      bufferText (stdoutOf frames)) ∧
    (∀ frames chunks, (stdoutOf frames).length ≤ maxStdoutBytes →
      chunks.flatten <+: encodeFrames frames →
      (∀ whole, whole <+: frames → chunks.flatten ≠ encodeFrames whole) →
      readBoundedDockerStdout (some chunks) maxStdoutBytes = .error .malformed) ∧
    ∀ chunks text, readBoundedDockerStdout (some chunks) maxStdoutBytes = .ok text →
      ∃ frames, chunks.flatten = encodeFrames frames ∧ text = bufferText (stdoutOf frames) := by
  refine ⟨fun frames chunks hbytes => ?_, fun frames => ?_,
    fun frames chunks hmax hbytes hcut => ?_, fun chunks text htext => ?_⟩
  · rw [readBoundedDockerStdout_scan, hbytes, scan_frames (Nat.zero_le _), List.length_nil,
      Nat.zero_add, List.nil_append]
    by_cases hfits : (stdoutOf frames).length ≤ maxStdoutBytes
    · rw [if_neg (by omega), if_pos hfits]
      rfl
    · rw [if_pos (by omega), if_neg hfits]
      rfl
  · rw [dockerMultiplexedOutput_frames]
  · rw [readBoundedDockerStdout_scan]
    exact scan_cut hbytes hcut hmax
  · rw [readBoundedDockerStdout_scan] at htext
    exact scanResult_ok htext

end Opzava.Provisioning
