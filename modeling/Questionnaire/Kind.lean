namespace Questionnaire

inductive Kind where
  | text
  | email
  | integer
  | date
  | datetime
  | time
  | url
  | tel
  | search
  | password
  | range
  | percent
  | money
  | country
  | language
  | locale
  | currency
  | checkbox
  | radio
  | choice
  | file
  | collection
  deriving DecidableEq, Repr, Inhabited

namespace Kind

def all : List Kind :=
  [.text, .email, .integer, .date, .datetime, .time, .url, .tel, .search, .password, .range,
   .percent, .money, .country, .language, .locale, .currency, .checkbox, .radio, .choice, .file,
   .collection]

theorem mem_all (k : Kind) : k ∈ all := by
  cases k <;> decide

/-- The token that names the kind. -/
def token : Kind → String
  | .text => "text"
  | .email => "email"
  | .integer => "integer"
  | .date => "date"
  | .datetime => "datetime"
  | .time => "time"
  | .url => "url"
  | .tel => "tel"
  | .search => "search"
  | .password => "password"
  | .range => "range"
  | .percent => "percent"
  | .money => "money"
  | .country => "country"
  | .language => "language"
  | .locale => "locale"
  | .currency => "currency"
  | .checkbox => "checkbox"
  | .radio => "radio"
  | .choice => "choice"
  | .file => "file"
  | .collection => "collection"

/-- The kind that a token names. `number` is another name of `integer`; every token that names no
kind stands for text. -/
def ofToken (token : String) : Kind :=
  if token = "number" then .integer
  else (all.find? (·.token == token)).getD .text

theorem ofToken_token (k : Kind) : ofToken k.token = k := by
  cases k <;> decide

def isNumeric (k : Kind) : Bool :=
  k == .integer

def isTemporal : Kind → Bool
  | .date | .datetime | .time => true
  | _ => false

end Kind

end Questionnaire
