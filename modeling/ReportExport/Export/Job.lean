import ReportExport.Json.Decode

/-!
# Export jobs

The queue carries one job per export run whose payload is `{"export_id": id}`.
-/

namespace ReportExport.ExportJob

/-- The payload of the job for an export. -/
def payload (exportId : Int) : Json := .obj [("export_id", .int exportId)]

/-- Reads the export id from a payload: an object with `export_id`, or a
one-item array. -/
def decode (j : Json) : Decoded Int :=
  match j with
  | .obj ms => do
    let fs : Fields := ⟨ms⟩
    fs.check [.of "export_id" Json.asI64]
    fs.required "export_id" Json.asI64
  | .arr items => do
    let it : Items := ⟨items, "struct ExportJob with 1 element"⟩
    let id ← it.required 0 Json.asI64
    it.noneBeyond 1
    pure id
  | _ => j.invalidType "struct ExportJob"

end ReportExport.ExportJob
