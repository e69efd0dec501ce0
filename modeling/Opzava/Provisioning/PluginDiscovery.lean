import Opzava.Library.Numerals
import Opzava.Library.Utf8

/-!
The frames of a plugin discovery (`provisioning/docker-gateway-runtime.ts`): a document of lines
with lengths in bytes, and texts of these lengths.

* `pluginDiscoveryDocument`: what the script of `pluginModelDiscoveryCommand` writes.
* `parsePluginDiscoveryFrames`: the reader.
* `parse_append`: a document that is read is not read with more behind it.
* `parsePluginDiscoveryFrames_document`: what is written is read back, and nothing shorter or
  longer is read.
-/

namespace Opzava.Provisioning

open Opzava.Library

def pluginModelDiscoveryMagic : String := "OPZAVA_PLUGIN_DISCOVERY_V1"

structure PluginCatalog where
  path : String
  json : String

structure PluginDiscoveryFrameRead where
  pluginJson : String
  catalogs : List PluginCatalog

/-- `Buffer.from(text, "utf8")`. -/
def bufferOf (text : String) : List UInt8 := utf8Bytes text.toList

/-- `wc -c`. -/
def wc (text : String) : String := toString (bufferOf text).length

/-! ### The script -/

/-- A catalog, with its header. -/
def catalogFrame (catalog : PluginCatalog) : String :=
  "C " ++ wc catalog.path ++ " " ++ wc catalog.json ++ "\n" ++ catalog.path ++ catalog.json

/-- The catalogs, and the end. -/
def catalogFrames : List PluginCatalog → String
  | [] => "E\n"
  | catalog :: catalogs => catalogFrame catalog ++ catalogFrames catalogs

/-- The document of `pluginModelDiscoveryCommand`, before it is capped. -/
def pluginDiscoveryDocument (pluginJson : String) (catalogs : List PluginCatalog) : String :=
  pluginModelDiscoveryMagic ++ "\n" ++ "P " ++ wc pluginJson ++ "\n" ++ pluginJson ++
    catalogFrames catalogs

/-! ### The reader -/

/-- `framedLine`: the line, and the bytes behind its newline. -/
def framedLine (bytes : List UInt8) : Option (String × List UInt8) :=
  match bytes.dropWhile (· ≠ 0x0a) with
  | [] => none
  | _ :: rest => some (bufferText (bytes.takeWhile (· ≠ 0x0a)), rest)

/-- `framedBytes`: the text, and the bytes behind it. A length that fits into a buffer is a safe
integer. -/
def framedBytes (bytes : List UInt8) (length : ℕ) : Option (String × List UInt8) :=
  if bytes.length < length then none
  else some (bufferText (bytes.take length), bytes.drop length)

/-- `(\d+)$`, and the number of its digits. -/
def sizeAtEnd (text : List Char) : Option ℕ :=
  if text ≠ [] ∧ text.all Char.isDigit = true then some (Nat.ofDigitChars 10 text 0) else none

/-- `^P (\d+)$`. -/
def pluginHeaderSize (line : String) : Option ℕ :=
  match line.toList with
  | 'P' :: ' ' :: digits => sizeAtEnd digits
  | _ => none

/-- `^C (\d+) (\d+)$`. -/
def catalogHeaderSizes (line : String) : Option (ℕ × ℕ) :=
  match line.toList with
  | 'C' :: ' ' :: text =>
      match text.dropWhile Char.isDigit with
      | ' ' :: digits =>
          (sizeAtEnd (text.takeWhile Char.isDigit)).bind fun pathSize =>
            (sizeAtEnd digits).map (pathSize, ·)
      | _ => none
  | _ => none

/-- The catalog behind its header. -/
def framedCatalog (header : String) (bytes : List UInt8) :
    Option (PluginCatalog × List UInt8) := do
  let (pathSize, jsonSize) ← catalogHeaderSizes header
  let (path, afterPath) ← framedBytes bytes pathSize
  let (json, afterJson) ← framedBytes afterPath jsonSize
  return (⟨path, json⟩, afterJson)

lemma framedLine_front {front : List UInt8} (h : 0x0a ∉ front) (rest : List UInt8) :
    framedLine (front ++ 0x0a :: rest) = some (bufferText front, rest) := by
  have hfront : ∀ byte ∈ front, decide (byte ≠ 0x0a) = true := by
    intro byte hbyte
    refine decide_eq_true fun heq => h ?_
    rwa [heq] at hbyte
  rw [framedLine, List.dropWhile_append_of_pos hfront, List.takeWhile_append_of_pos hfront,
    List.dropWhile_cons_of_neg (by decide), List.takeWhile_cons_of_neg (by decide),
    List.append_nil]

lemma framedLine_eq_some {bytes rest : List UInt8} {line : String}
    (h : framedLine bytes = some (line, rest)) :
    ∃ front, bytes = front ++ 0x0a :: rest ∧ 0x0a ∉ front ∧ line = bufferText front := by
  rw [framedLine] at h
  split at h
  · cases h
  · rename_i newline rest' heq
    cases h
    have hnewline : newline = 0x0a := by
      have hhead := List.head?_dropWhile_not (· ≠ (0x0a : UInt8)) bytes
      rw [heq] at hhead
      simpa using hhead
    refine ⟨bytes.takeWhile (· ≠ 0x0a), ?_, fun hmem => ?_, rfl⟩
    · rw [hnewline] at heq
      rw [← heq, List.takeWhile_append_dropWhile]
    · exact absurd (List.mem_takeWhile_imp hmem) (by decide)

lemma framedBytes_eq_some {bytes rest : List UInt8} {length : ℕ} {text : String}
    (h : framedBytes bytes length = some (text, rest)) :
    length ≤ bytes.length ∧ text = bufferText (bytes.take length) ∧ rest = bytes.drop length := by
  rw [framedBytes] at h
  split at h
  · cases h
  · cases h
    exact ⟨by omega, rfl, rfl⟩

lemma framedCatalog_eq_some {bytes rest : List UInt8} {header : String} {catalog : PluginCatalog}
    (h : framedCatalog header bytes = some (catalog, rest)) :
    ∃ pathSize jsonSize afterPath, catalogHeaderSizes header = some (pathSize, jsonSize) ∧
      framedBytes bytes pathSize = some (catalog.path, afterPath) ∧
      framedBytes afterPath jsonSize = some (catalog.json, rest) := by
  rw [framedCatalog] at h
  obtain ⟨⟨pathSize, jsonSize⟩, hsizes, h⟩ := Option.bind_eq_some_iff.mp h
  obtain ⟨⟨path, afterPath⟩, hpath, h⟩ := Option.bind_eq_some_iff.mp h
  obtain ⟨⟨json, afterJson⟩, hjson, h⟩ := Option.bind_eq_some_iff.mp h
  cases h
  exact ⟨pathSize, jsonSize, afterPath, hsizes, hpath, hjson⟩

lemma framedCatalog_of {bytes afterPath rest : List UInt8} {header path json : String}
    {pathSize jsonSize : ℕ} (hsizes : catalogHeaderSizes header = some (pathSize, jsonSize))
    (hpath : framedBytes bytes pathSize = some (path, afterPath))
    (hjson : framedBytes afterPath jsonSize = some (json, rest)) :
    framedCatalog header bytes = some (⟨path, json⟩, rest) := by
  refine Option.bind_eq_some_iff.mpr ⟨_, hsizes, ?_⟩
  refine Option.bind_eq_some_iff.mpr ⟨_, hpath, ?_⟩
  exact Option.bind_eq_some_iff.mpr ⟨_, hjson, rfl⟩

/-- A header and its catalog are taken off the bytes. -/
lemma framedCatalog_shorter {bytes afterHeader rest : List UInt8} {header : String}
    {catalog : PluginCatalog} (hline : framedLine bytes = some (header, afterHeader))
    (hcatalog : framedCatalog header afterHeader = some (catalog, rest)) :
    rest.length < bytes.length := by
  obtain ⟨front, rfl, -, -⟩ := framedLine_eq_some hline
  obtain ⟨pathSize, jsonSize, afterPath, -, hpath, hjson⟩ := framedCatalog_eq_some hcatalog
  obtain ⟨-, -, rfl⟩ := framedBytes_eq_some hpath
  obtain ⟨-, -, rfl⟩ := framedBytes_eq_some hjson
  rw [List.length_append, List.length_cons, List.length_drop, List.length_drop]
  omega

/-- The catalogs up to the end of the document. -/
def readCatalogs (pluginJson : String) (catalogs : List PluginCatalog) (bytes : List UInt8) :
    Option PluginDiscoveryFrameRead :=
  match _hline : framedLine bytes with
  | none => none
  | some (header, afterHeader) =>
      if header = "E" then if afterHeader = [] then some ⟨pluginJson, catalogs⟩ else none
      else
        match _hcatalog : framedCatalog header afterHeader with
        | none => none
        | some (catalog, rest) => readCatalogs pluginJson (catalogs ++ [catalog]) rest
termination_by bytes.length
decreasing_by exact framedCatalog_shorter _hline _hcatalog

def parsePluginDiscoveryFrames (stdout : String) : Option PluginDiscoveryFrameRead := do
  let (magic, afterMagic) ← framedLine (bufferOf stdout)
  if magic ≠ pluginModelDiscoveryMagic then none
  else
    let (pluginHeader, afterHeader) ← framedLine afterMagic
    let pluginSize ← pluginHeaderSize pluginHeader
    let (pluginJson, rest) ← framedBytes afterHeader pluginSize
    readCatalogs pluginJson [] rest

/-! ### More behind a document -/

lemma bufferOf_append (text more : String) :
    bufferOf (text ++ more) = bufferOf text ++ bufferOf more := by
  rw [bufferOf, String.toList_append, utf8Bytes_append]
  rfl

lemma bufferText_bufferOf (text : String) : bufferText (bufferOf text) = text := by
  rw [bufferOf, bufferText_utf8Bytes, String.ofList_toList]

lemma bufferOf_ne_nil {text : String} (h : text ≠ "") : bufferOf text ≠ [] := by
  intro hnil
  refine h ?_
  rw [← bufferText_bufferOf text, hnil]
  rfl

section Append

variable {bytes rest : List UInt8}

lemma framedLine_append {line : String} (h : framedLine bytes = some (line, rest))
    (more : List UInt8) : framedLine (bytes ++ more) = some (line, rest ++ more) := by
  obtain ⟨front, rfl, hfront, rfl⟩ := framedLine_eq_some h
  rw [List.append_assoc, List.cons_append, framedLine_front hfront]

lemma framedBytes_append {length : ℕ} {text : String}
    (h : framedBytes bytes length = some (text, rest)) (more : List UInt8) :
    framedBytes (bytes ++ more) length = some (text, rest ++ more) := by
  obtain ⟨hlength, rfl, rfl⟩ := framedBytes_eq_some h
  rw [framedBytes, if_neg (by rw [List.length_append]; omega),
    List.take_append_of_le_length hlength, List.drop_append_of_le_length hlength]

lemma framedCatalog_append {header : String} {catalog : PluginCatalog}
    (h : framedCatalog header bytes = some (catalog, rest)) (more : List UInt8) :
    framedCatalog header (bytes ++ more) = some (catalog, rest ++ more) := by
  obtain ⟨pathSize, jsonSize, afterPath, hsizes, hpath, hjson⟩ := framedCatalog_eq_some h
  exact framedCatalog_of hsizes (framedBytes_append hpath more) (framedBytes_append hjson more)

/-- What is read with a line. -/
lemma readCatalogs_line {header pluginJson : String} {catalogs : List PluginCatalog}
    (h : framedLine bytes = some (header, rest)) :
    readCatalogs pluginJson catalogs bytes =
      if header = "E" then if rest = [] then some ⟨pluginJson, catalogs⟩ else none
      else (framedCatalog header rest).bind fun (catalog, rest') =>
        readCatalogs pluginJson (catalogs ++ [catalog]) rest' := by
  rw [readCatalogs.eq_def]
  split
  · rename_i hline
    rw [hline] at h
    cases h
  · rename_i header' rest' hline
    rw [hline] at h
    cases h
    refine if_congr Iff.rfl rfl ?_
    split
    · rename_i hcatalog
      rw [hcatalog]
      rfl
    · rename_i catalog rest'' hcatalog
      rw [hcatalog]
      rfl

/-- The line that is read first, and what it says. -/
lemma readCatalogs_eq_some {pluginJson : String} {catalogs : List PluginCatalog}
    {read : PluginDiscoveryFrameRead} (h : readCatalogs pluginJson catalogs bytes = some read) :
    ∃ header after, framedLine bytes = some (header, after) ∧
      (header = "E" ∧ after = [] ∨ header ≠ "E" ∧ ∃ catalog rest,
        framedCatalog header after = some (catalog, rest) ∧
          readCatalogs pluginJson (catalogs ++ [catalog]) rest = some read) := by
  cases hline : framedLine bytes with
  | none =>
      rw [readCatalogs.eq_def] at h
      split at h
      · cases h
      · rename_i hsome
        rw [hline] at hsome
        cases hsome
  | some line =>
      obtain ⟨header, after⟩ := line
      rw [readCatalogs_line hline] at h
      refine ⟨header, after, rfl, ?_⟩
      by_cases hend : header = "E"
      · rw [if_pos hend] at h
        split at h
        · rename_i hafter
          exact .inl ⟨hend, hafter⟩
        · cases h
      · rw [if_neg hend] at h
        obtain ⟨⟨catalog, rest'⟩, hcatalog, hread⟩ := Option.bind_eq_some_iff.mp h
        exact .inr ⟨hend, catalog, rest', hcatalog, hread⟩

/-- The end of the document is the end of the bytes. -/
lemma readCatalogs_append {pluginJson : String} {catalogs : List PluginCatalog}
    {read : PluginDiscoveryFrameRead} {more : List UInt8} (hmore : more ≠ [])
    (h : readCatalogs pluginJson catalogs bytes = some read) :
    readCatalogs pluginJson catalogs (bytes ++ more) = none := by
  induction hn : bytes.length using Nat.strong_induction_on generalizing catalogs bytes with
  | _ n ih =>
  subst hn
  obtain ⟨header, after, hline, hcase⟩ := readCatalogs_eq_some h
  rw [readCatalogs_line (framedLine_append hline more)]
  rcases hcase with ⟨hend, rfl⟩ | ⟨hend, catalog, rest', hcatalog, hread⟩
  · rw [if_pos hend, if_neg (by rwa [List.nil_append])]
  · rw [if_neg hend, framedCatalog_append hcatalog more]
    refine ih rest'.length ?_ hread rfl
    exact framedCatalog_shorter hline hcatalog

/-- What is read with the lines before the catalogs. -/
lemma parse_lines {stdout header pluginJson : String} {afterMagic afterHeader : List UInt8}
    {pluginSize : ℕ}
    (hmagic : framedLine (bufferOf stdout) = some (pluginModelDiscoveryMagic, afterMagic))
    (hheader : framedLine afterMagic = some (header, afterHeader))
    (hsize : pluginHeaderSize header = some pluginSize)
    (hplugin : framedBytes afterHeader pluginSize = some (pluginJson, rest)) :
    parsePluginDiscoveryFrames stdout = readCatalogs pluginJson [] rest := by
  simp only [parsePluginDiscoveryFrames, hmagic, Option.bind_eq_bind, Option.bind_some, ne_eq,
    not_true_eq_false, if_false, hheader, hsize, hplugin]

/-- **A document that is read** is not read with more behind it. -/
lemma parse_append {stdout more : String} {read : PluginDiscoveryFrameRead} (hmore : more ≠ "")
    (h : parsePluginDiscoveryFrames stdout = some read) :
    parsePluginDiscoveryFrames (stdout ++ more) = none := by
  obtain ⟨⟨magic, afterMagic⟩, hmagic, h⟩ := Option.bind_eq_some_iff.mp h
  dsimp only at h
  by_cases hequal : magic ≠ pluginModelDiscoveryMagic
  · rw [if_pos hequal] at h
    cases h
  · rw [if_neg hequal] at h
    obtain ⟨⟨header, afterHeader⟩, hheader, h⟩ := Option.bind_eq_some_iff.mp h
    obtain ⟨pluginSize, hsize, h⟩ := Option.bind_eq_some_iff.mp h
    obtain ⟨⟨pluginJson, rest⟩, hplugin, hread⟩ := Option.bind_eq_some_iff.mp h
    obtain rfl := not_not.mp hequal
    have hmagic' := framedLine_append hmagic (bufferOf more)
    rw [← bufferOf_append] at hmagic'
    rw [parse_lines hmagic' (framedLine_append hheader (bufferOf more)) hsize
      (framedBytes_append hplugin (bufferOf more))]
    exact readCatalogs_append (bufferOf_ne_nil hmore) hread

end Append

/-! ### What the script writes -/

section Document

variable {rest : List UInt8}

lemma framedLine_text (line : String) (h : '\n' ∉ line.toList) (rest : List UInt8) :
    framedLine (bufferOf line ++ 0x0a :: rest) = some (line, rest) := by
  have hfront : 0x0a ∉ bufferOf line := by
    intro hmem
    obtain ⟨c, hc, hbyte⟩ := List.mem_flatMap.mp hmem
    have hnewline : c.toNat = 10 := toNat_of_mem_utf8EncodeChar (by decide) hbyte
    have hchar : c = '\n' := (Char.ofNat_toNat c).symm.trans (congrArg Char.ofNat hnewline)
    exact h (hchar ▸ hc)
  rw [framedLine_front hfront, bufferText_bufferOf]

lemma framedBytes_text (text : String) (rest : List UInt8) :
    framedBytes (bufferOf text ++ rest) (bufferOf text).length = some (text, rest) := by
  rw [framedBytes, if_neg (by rw [List.length_append]; omega), List.take_left, List.drop_left,
    bufferText_bufferOf]

lemma wc_toList (text : String) : (wc text).toList = Nat.toDigits 10 (bufferOf text).length :=
  toList_toString _

lemma isDigit_of_mem_wc {text : String} {c : Char} (h : c ∈ (wc text).toList) :
    c.isDigit = true := by
  rw [wc_toList] at h
  exact isDigit_of_mem_toDigits h

lemma sizeAtEnd_wc (text : String) : sizeAtEnd (wc text).toList = some (bufferOf text).length := by
  have hne : Nat.toDigits 10 (bufferOf text).length ≠ [] := Nat.toDigits_ne_nil
  have hall : (Nat.toDigits 10 (bufferOf text).length).all Char.isDigit = true :=
    List.all_eq_true.mpr fun c hc => isDigit_of_mem_toDigits hc
  rw [wc_toList, sizeAtEnd, if_pos ⟨hne, hall⟩, Nat.ofDigitChars_ten_toDigits]

lemma pluginHeaderSize_wc (text : String) :
    pluginHeaderSize ("P " ++ wc text) = some (bufferOf text).length := by
  have htext : ("P " ++ wc text).toList = 'P' :: ' ' :: (wc text).toList := String.toList_append
  rw [pluginHeaderSize, htext]
  exact sizeAtEnd_wc text

lemma catalogHeaderSizes_wc (path json : String) :
    catalogHeaderSizes ("C " ++ wc path ++ " " ++ wc json) =
      some ((bufferOf path).length, (bufferOf json).length) := by
  have htext : ("C " ++ wc path ++ " " ++ wc json).toList =
      'C' :: ' ' :: ((wc path).toList ++ ' ' :: (wc json).toList) := by
    rw [String.toList_append, String.toList_append, String.toList_append, List.append_assoc]
    rfl
  have hdigits : ∀ c ∈ (wc path).toList, c.isDigit = true := fun c hc => isDigit_of_mem_wc hc
  have hdrop : ((wc path).toList ++ ' ' :: (wc json).toList).dropWhile Char.isDigit =
      ' ' :: (wc json).toList := by
    rw [List.dropWhile_append_of_pos hdigits, List.dropWhile_cons_of_neg (by decide)]
  have htake : ((wc path).toList ++ ' ' :: (wc json).toList).takeWhile Char.isDigit =
      (wc path).toList := by
    rw [List.takeWhile_append_of_pos hdigits, List.takeWhile_cons_of_neg (by decide),
      List.append_nil]
  simp only [catalogHeaderSizes, htext, hdrop, htake, sizeAtEnd_wc, Option.bind_some,
    Option.map_some]

lemma newline_not_mem_wc (text : String) : '\n' ∉ (wc text).toList := fun h =>
  absurd (isDigit_of_mem_wc h) (by decide)

/-- The catalogs are read back. -/
lemma readCatalogs_catalogFrames (pluginJson : String) (before catalogs : List PluginCatalog) :
    readCatalogs pluginJson before (bufferOf (catalogFrames catalogs)) =
      some ⟨pluginJson, before ++ catalogs⟩ := by
  induction catalogs generalizing before with
  | nil =>
      have hend : framedLine (bufferOf (catalogFrames [])) = some ("E", []) :=
        framedLine_text "E" (by decide) []
      rw [readCatalogs_line hend, if_pos rfl, if_pos rfl, List.append_nil]
  | cons catalog catalogs ih =>
      have hbytes : bufferOf (catalogFrames (catalog :: catalogs)) =
          bufferOf ("C " ++ wc catalog.path ++ " " ++ wc catalog.json) ++ 0x0a ::
            (bufferOf catalog.path ++ (bufferOf catalog.json ++
              bufferOf (catalogFrames catalogs))) := by
        rw [catalogFrames, catalogFrame, bufferOf_append, bufferOf_append _ catalog.json,
          bufferOf_append _ catalog.path, bufferOf_append _ "\n", List.append_assoc,
          List.append_assoc, List.append_assoc]
        rfl
      have hnewline : '\n' ∉ ("C " ++ wc catalog.path ++ " " ++ wc catalog.json).toList := by
        rw [String.toList_append, String.toList_append, String.toList_append]
        simp only [List.mem_append, not_or]
        exact ⟨⟨⟨by decide, newline_not_mem_wc _⟩, by decide⟩, newline_not_mem_wc _⟩
      have hline := framedLine_text _ hnewline (bufferOf catalog.path ++ (bufferOf catalog.json ++
        bufferOf (catalogFrames catalogs)))
      have hcatalog := framedCatalog_of (catalogHeaderSizes_wc catalog.path catalog.json)
        (framedBytes_text catalog.path _)
        (framedBytes_text catalog.json (bufferOf (catalogFrames catalogs)))
      have hne : "C " ++ wc catalog.path ++ " " ++ wc catalog.json ≠ "E" := by
        intro heq
        have hhead := congrArg (fun text => text.toList.head?) heq
        rw [String.toList_append, String.toList_append, String.toList_append] at hhead
        cases hhead
      rw [hbytes, readCatalogs_line hline, if_neg hne, hcatalog, Option.bind_some]
      dsimp only
      rw [ih, List.append_assoc]
      rfl

/-- The whole document is read back. -/
lemma parse_document (pluginJson : String) (catalogs : List PluginCatalog) :
    parsePluginDiscoveryFrames (pluginDiscoveryDocument pluginJson catalogs) =
      some ⟨pluginJson, catalogs⟩ := by
  have hbytes : bufferOf (pluginDiscoveryDocument pluginJson catalogs) =
      bufferOf pluginModelDiscoveryMagic ++ 0x0a :: (bufferOf ("P " ++ wc pluginJson) ++ 0x0a ::
        (bufferOf pluginJson ++ bufferOf (catalogFrames catalogs))) := by
    have htext : pluginDiscoveryDocument pluginJson catalogs = pluginModelDiscoveryMagic ++ ("\n" ++
        ("P " ++ wc pluginJson ++ ("\n" ++ (pluginJson ++ catalogFrames catalogs)))) := by
      rw [pluginDiscoveryDocument]
      simp only [String.append_assoc]
    rw [htext, bufferOf_append, bufferOf_append "\n", bufferOf_append ("P " ++ wc pluginJson),
      bufferOf_append "\n", bufferOf_append pluginJson]
    rfl
  have hmagic := framedLine_text pluginModelDiscoveryMagic (by decide)
    (bufferOf ("P " ++ wc pluginJson) ++ 0x0a ::
      (bufferOf pluginJson ++ bufferOf (catalogFrames catalogs)))
  have hnewline : '\n' ∉ ("P " ++ wc pluginJson).toList := by
    rw [String.toList_append, List.mem_append, not_or]
    exact ⟨by decide, newline_not_mem_wc pluginJson⟩
  rw [← hbytes] at hmagic
  rw [parse_lines hmagic (framedLine_text _ hnewline _) (pluginHeaderSize_wc pluginJson)
    (framedBytes_text pluginJson _), readCatalogs_catalogFrames, List.nil_append]

end Document

/-- **Plugin discovery** reads back what the script writes, whatever the texts are, and only a
whole document: nothing is read of a text whose bytes are the beginning of the document, nor of a
document with more behind it. -/
theorem parsePluginDiscoveryFrames_document (pluginJson : String) (catalogs : List PluginCatalog) :
    parsePluginDiscoveryFrames (pluginDiscoveryDocument pluginJson catalogs) =
      some ⟨pluginJson, catalogs⟩ ∧
    (∀ stdout, bufferOf stdout <+: bufferOf (pluginDiscoveryDocument pluginJson catalogs) →
      stdout ≠ pluginDiscoveryDocument pluginJson catalogs →
      parsePluginDiscoveryFrames stdout = none) ∧
    ∀ more, more ≠ "" →
      parsePluginDiscoveryFrames (pluginDiscoveryDocument pluginJson catalogs ++ more) = none := by
  have hwhole : parsePluginDiscoveryFrames (pluginDiscoveryDocument pluginJson catalogs) =
      some ⟨pluginJson, catalogs⟩ := parse_document pluginJson catalogs
  refine ⟨hwhole, fun stdout hbytes hne => ?_, fun more hmore => parse_append hmore hwhole⟩
  -- What is read of a beginning is not read of the whole.
  obtain ⟨more, hmore⟩ := prefix_of_utf8Bytes hbytes
  have hdocument : pluginDiscoveryDocument pluginJson catalogs = stdout ++ String.ofList more := by
    rw [← String.ofList_toList (s := pluginDiscoveryDocument pluginJson catalogs), ← hmore,
      String.ofList_append, String.ofList_toList]
  cases hread : parsePluginDiscoveryFrames stdout with
  | none => rfl
  | some read =>
      have hnonempty : String.ofList more ≠ "" := by
        intro hnil
        rw [hnil, String.append_empty] at hdocument
        exact hne hdocument.symm
      have hnone := parse_append hnonempty hread
      rw [← hdocument, hwhole] at hnone
      cases hnone

end Opzava.Provisioning
