import ThermalPrint.Image.Reference

/-
The web as it looks where no name can be resolved: every address is asked in vain.
-/

namespace ThermalPrint

structure WebTarget where
  secure : Bool
  host : Text
  port : Text
  path : Text

namespace WebTarget

def ofUrl (t : Text) : WebTarget :=
  let secure := "https".toText.isPrefixOf t
  let rest := (t.dropWhile (· ≠ .char '/')).drop 2
  let authority := rest.takeWhile fun (c : CodePoint) => !(c = '/' || c = '?' || c = '#')
  let place := (authority.reverse.takeWhile (· ≠ .char '@')).reverse
  let host := place.takeWhile (· ≠ .char ':')
  let given := (place.drop host.length).drop 1
  let path := (rest.drop authority.length).takeWhile (· ≠ .char '#')
  { secure
    host := host.map CodePoint.toLower
    port := if !given.isEmpty then given else if secure then "443" else "80"
    path := if path.head? = some (.char '/') then path else .char '/' :: path }

/-- Why nothing came from an address: its name could not be resolved, or it has none. -/
def unresolved (url : Text) : Text :=
  let t := ofUrl url
  let maker := if t.secure then "HTTPSConnection" else "HTTPConnection"
  let place : Text := "(host='" ++ t.host ++ "', port=" ++ t.port ++ ")"
  if t.host.isEmpty then "Invalid URL " ++ Text.quote url ++ ": No host supplied"
  else
    maker ++ "Pool" ++ place ++ ": Max retries exceeded with url: " ++ t.path
      ++ " (Caused by NameResolutionError(\"" ++ maker ++ place ++ ": Failed to resolve '"
      ++ t.host ++ "' ([Errno -3] Temporary failure in name resolution)\"))"

end WebTarget

def Picture.offline {m : Type → Type} [Monad m] : Fetch m :=
  fun url _ => pure (.error (WebTarget.unresolved url))

end ThermalPrint
