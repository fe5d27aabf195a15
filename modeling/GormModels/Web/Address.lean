import GormModels.Text.Digit
import GormModels.Text.Split
import GormModels.Value.Display

/-!
The address that the web page is served at: a host, which may be missing, and a port.
-/

namespace GormModels.Web

structure Address where
  host : String
  port : Nat
  deriving DecidableEq, Repr

inductive AddressError
  | form (address : String)
  /-- The port consists of digits, some of which no positional notation uses. -/
  | numeral (port : String)
  | overlong (digits : Nat)
  deriving DecidableEq, Repr

def AddressError.message : AddressError → String
  | form address => "Invalid serve address: " ++ address
  | numeral port => "invalid literal for int() with base 10: " ++ Value.showText port
  | overlong digits =>
    "Exceeds the limit (4300 digits) for integer string conversion: value has " ++ toString digits ++
      " digits; use sys.set_int_max_str_digits() to increase the limit"

/-- Without a host the page is served at every address of the machine. -/
def Address.ofText (address : String) : Except AddressError Address :=
  let (host, port) := Text.splitLast ':' address.toList
  if port.isEmpty || !port.all Text.isDigit then .error (.form address)
  else match Text.decimalNumber? port with
    | none => .error (.numeral (.ofList port))
    | some n =>
      if port.length > 4300 then .error (.overlong port.length)
      else .ok ⟨if host.isEmpty then "0.0.0.0" else .ofList host, n⟩

def Address.url (a : Address) : String := "http://" ++ a.host ++ ":" ++ toString a.port ++ "/"

end GormModels.Web
