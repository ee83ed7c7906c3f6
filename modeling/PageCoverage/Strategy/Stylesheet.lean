import PageCoverage.Strategy.Basic

namespace PageCoverage

/-- The head of a stylesheet. -/
structure StylesheetHeader where
  id : String
  url : String

/-- The announcement of a stylesheet. -/
structure StylesheetAdded where
  header : StylesheetHeader

/-- The answer to a fetch of a stylesheet. -/
structure StylesheetText where
  text : String

instance : Coded StylesheetHeader where
  schema := .record "StyleSheetHeader"
    (.cons "styleSheetId" .text .required (.cons "sourceURL" .text (.value (.text "")) .nil))
  toData h := (h.id, h.url, ())
  ofData := fun (id, url, _) => ⟨id, url⟩

instance : Coded StylesheetAdded where
  schema := .record "StyleSheetAdded" (.cons "header" (Coded.schema StylesheetHeader) .required .nil)
  toData a := (Coded.toData a.header, ())
  ofData := fun (header, _) => ⟨Coded.ofData header⟩

instance : Coded StylesheetText where
  schema := .record "StyleSheetText" (.cons "text" .text .required .nil)
  toData t := (t.text, ())
  ofData := fun (text, _) => ⟨text⟩

/-- Read a stylesheet's registration; inline stylesheets have no URL and are left out. -/
def StylesheetOptions.registration (_ : StylesheetOptions) (params : Value) :
    Except CoverageError (Option Registration) := do
  let added ← decodePayload StylesheetAdded Event.styleSheetAdded params
  if added.header.url = "" then .ok none
  else .ok (some ⟨⟨added.header.id⟩, added.header.url⟩)

instance : Strategy StylesheetOptions where
  kind := .stylesheet
  registrationEvent := Event.styleSheetAdded
  resetOnNavigation o := o.resetOnNavigation
  enableCommands _ :=
    [{ method := Method.domEnable },
     { method := Method.cssEnable },
     { method := Method.startRuleUsageTracking }]
  collectCommand _ := { method := Method.stopRuleUsageTracking }
  disableCommands _ := [{ method := Method.cssDisable }, { method := Method.domDisable }]
  registration := StylesheetOptions.registration
  fetchCommand _ id := { method := Method.getStyleSheetText, params := .object [("styleSheetId", .text id.text)] }
  sourceText _ v := (decodePayload StylesheetText Method.getStyleSheetText v).map StylesheetText.text
  usage _ v := (decodePayload RuleSnapshot Method.stopRuleUsageTracking v).map RuleSnapshot.usage

end PageCoverage
