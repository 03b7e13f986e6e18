import Questionnaire.Main
import Questionnaire.Proofs.Condition.Levels
import Questionnaire.Proofs.Condition.Membership
import Questionnaire.Proofs.Condition.Negation
import Questionnaire.Proofs.Condition.Reordering
import Questionnaire.Proofs.Form.Accounting
import Questionnaire.Proofs.Form.Agreement
import Questionnaire.Proofs.Form.Arrangement
import Questionnaire.Proofs.Form.Checks
import Questionnaire.Proofs.Form.Dependencies
import Questionnaire.Proofs.Form.Entry
import Questionnaire.Proofs.Form.Exchange
import Questionnaire.Proofs.Form.Interference
import Questionnaire.Proofs.Form.Mirroring
import Questionnaire.Proofs.Form.Outlining
import Questionnaire.Proofs.Form.Policy
import Questionnaire.Proofs.Form.Rebuild
import Questionnaire.Proofs.Form.Recording
import Questionnaire.Proofs.Form.Seeding
import Questionnaire.Proofs.Form.Truncation
import Questionnaire.Proofs.Json.DistinctKeys
import Questionnaire.Proofs.Number.Words
import Questionnaire.Proofs.Schema.WellFormed
import Questionnaire.Proofs.Session.Building
import Questionnaire.Proofs.Validation.Building
import Questionnaire.Proofs.Validation.Strictness
import Questionnaire.Proofs.Value.Coercion
import Questionnaire.Proofs.Value.Ordering
import Questionnaire.Proofs.Value.RoundTrip
import Questionnaire.Session
