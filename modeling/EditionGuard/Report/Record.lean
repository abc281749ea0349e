import EditionGuard.Gate.Verdict
import EditionGuard.Json.Record
import EditionGuard.Report.Print
import EditionGuard.Word

/-!
# Findings as records

How findings and failures are read from JSON values. Lines and columns are numbers of 32
bits.
-/

namespace EditionGuard

open Json.Value

def FileLocation.ofJson? (value : Json.Value) : Option FileLocation := do
  match ← value.allFields? [["path"], ["line"], ["column"]] with
  | [path, line, column] =>
    return {
      path := ← required? string? path
      line := ← required? word? line
      column := ← required? word? column }
  | _ => none

def SourceLocation.ofJson? (value : Json.Value) : Option SourceLocation := do
  match ← value.allFields? [["path"], ["line"], ["column"], ["absolutePath"], ["code"]] with
  | [path, line, column, absolutePath, code] =>
    return {
      path := ← required? string? path
      line := ← required? word? line
      column := ← required? word? column
      absolutePath := ← required? string? absolutePath
      code := ← required? string? code }
  | _ => none

def Incompatibility.ofJson? (value : Json.Value) : Option Incompatibility := do
  match ← value.allFields? [["message"], ["source"], ["output"]] with
  | [message, source, output] =>
    return {
      message := ← required? string? message
      source := ← required? SourceLocation.ofJson? source
      output := ← optional? FileLocation.ofJson? output }
  | _ => none

def Text.Position.ofJson? (value : Json.Value) : Option Text.Position := do
  match ← value.allFields? [["line"], ["column"]] with
  | [line, column] => return ⟨← required? word? line, ← required? word? column⟩
  | _ => none

def Gate.Failure.ofJson? (value : Json.Value) : Option Gate.Failure := do
  match ← value.allFields? [["message"], ["byteOffset"], ["position"]] with
  | [message, byteOffset, position] =>
    return {
      message := ← required? string? message
      byteOffset := ← required? (natural? Word.count64) byteOffset
      position := ← required? Text.Position.ofJson? position }
  | _ => none

end EditionGuard
