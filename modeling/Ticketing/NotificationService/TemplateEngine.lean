import Ticketing.Base.Values

/-!
# The template engine

Library `NotificationService`. Follows `templates/template.engine.ts`. Compiling a text and
filling it in is what Handlebars does, a parameter.
-/

namespace Ticketing.NotificationService

/-- `templates/interfaces/email-template.interface.ts`. -/
structure EmailTemplate where
  subject : String
  body : String
  html : String
  deriving DecidableEq, Repr

/-- `Handlebars.compile(text)(data)`. -/
abbrev Handlebars : Type := String → List (String × Value) → Except Exception String

namespace TemplateEngine

/-- A text of several lines. -/
def lines (texts : List String) : String := String.intercalate "\n" texts

/-- `email_verification`. -/
def emailVerification : EmailTemplate where
  subject := "Email adresinizi doğrulayın"
  body := lines [
    "Merhaba {{fullName}},",
    "    ",
    "    Hesabınızı aktifleştirmek için aşağıdaki bağlantıya tıklayın:",
    "    ",
    "    {{verificationUrl}}",
    "    ",
    "    Bu bağlantı 24 saat geçerlidir."]
  html := lines [
    "<h2>Email doğrulama</h2>",
    "    <p>Merhaba <strong>{{fullName}}</strong>,</p>",
    "    <p>Hesabınızı aktifleştirmek için aşağıdaki butona tıklayın:</p>",
    "    <p><a href=\"{{verificationUrl}}\" style=\"display:inline-block;padding:12px " ++
      "24px;background:#534AB7;color:#fff;text-decoration:none;border-radius:8px\">Email " ++
      "adresimi doğrula</a></p>",
    "    <p style=\"color:#888;font-size:12px\">Bu bağlantı 24 saat geçerlidir.</p>"]

/-- `password_reset`. -/
def passwordReset : EmailTemplate where
  subject := "Şifre sıfırlama talebi"
  body := lines [
    "Merhaba {{fullName}},",
    "    ",
    "    Şifrenizi sıfırlamak için aşağıdaki bağlantıya tıklayın:",
    "    ",
    "    {{resetUrl}}",
    "    ",
    "    Bu bağlantı 1 saat geçerlidir. Eğer bu talebi siz yapmadıysanız bu emaili " ++
      "görmezden gelebilirsiniz."]
  html := lines [
    "<h2>Şifre sıfırlama</h2>",
    "    <p>Merhaba <strong>{{fullName}}</strong>,</p>",
    "    <p>Şifrenizi sıfırlamak için aşağıdaki butona tıklayın:</p>",
    "    <p><a href=\"{{resetUrl}}\" style=\"display:inline-block;padding:12px 24px;" ++
      "background:#D85A30;color:#fff;text-decoration:none;border-radius:8px\">Şifremi " ++
      "sıfırla</a></p>",
    "    <p style=\"color:#888;font-size:12px\">Bu bağlantı 1 saat geçerlidir. Bu talebi " ++
      "siz yapmadıysanız görmezden gelin.</p>"]

/-- `booking_refunded`. -/
def bookingRefunded : EmailTemplate where
  subject := "İade onaylandı — {{bookingNumber}}"
  body := lines [
    "Merhaba,",
    "      ",
    "      Booking {{bookingNumber}} için iade talebiniz onaylandı. {{totalAmount}} " ++
      "{{currency}} tutarı kartınıza 3-5 iş günü içinde geri yansıyacak.",
    "      ",
    "      Teşekkür ederiz."]
  html := lines [
    "<h2>İade onaylandı</h2>",
    "      <p>Booking <strong>{{bookingNumber}}</strong> için iade talebiniz onaylandı.</p>",
    "      <p><strong>{{totalAmount}} {{currency}}</strong> tutarı kartınıza 3-5 iş günü " ++
      "içinde geri yansıyacak.</p>"]

/-- `booking_confirmed`. -/
def bookingConfirmed : EmailTemplate where
  subject := "Booking onaylandı — {{bookingNumber}}"
  body := lines [
    "Merhaba {{attendeeName}},",
    "",
    "Ödemeniz başarıyla alındı. Booking detayları:",
    "",
    "Booking No: {{bookingNumber}}",
    "Etkinlik: {{eventTitle}}",
    "Toplam: {{totalAmount}} {{currency}}",
    "",
    "Koltuklarınız:",
    "\x7b\x7b#each seats\x7d\x7d",
    "- {{sectionName}} / Sıra {{row}} / Koltuk {{seatNumber}}",
    "\x7b\x7b/each\x7d\x7d",
    "",
    "İyi eğlenceler!"]
  html := lines [
    "<h2>Booking onaylandı</h2>",
    "<p>Merhaba <strong>{{attendeeName}}</strong>,</p>",
    "<p>Ödemeniz başarıyla alındı.</p>",
    "<table style=\"border-collapse:collapse\">",
    "  <tr><td><strong>Booking No:</strong></td><td>{{bookingNumber}}</td></tr>",
    "  <tr><td><strong>Etkinlik:</strong></td><td>{{eventTitle}}</td></tr>",
    "  <tr><td><strong>Toplam:</strong></td><td>{{totalAmount}} {{currency}}</td></tr>",
    "</table>",
    "<h3>Koltuklarınız</h3>",
    "<ul>",
    "\x7b\x7b#each seats\x7d\x7d",
    "  <li>{{sectionName}} / Sıra {{row}} / Koltuk {{seatNumber}}</li>",
    "\x7b\x7b/each\x7d\x7d",
    "</ul>",
    "<p>İyi eğlenceler!</p>"]

/-- `payment_failed`. -/
def paymentFailed : EmailTemplate where
  subject := "Ödemeniz başarısız oldu — {{bookingNumber}}"
  body := lines [
    "Merhaba,",
    "",
    "Booking {{bookingNumber}} için ödemeniz başarısız oldu.",
    "Sebep: {{reason}}",
    "",
    "Koltuklarınız serbest bırakıldı. Tekrar denemek isterseniz yeni bir rezervasyon " ++
      "yapabilirsiniz."]
  html := lines [
    "<h2>Ödemeniz başarısız oldu</h2>",
    "<p>Booking <strong>{{bookingNumber}}</strong> için ödemeniz başarısız oldu.</p>",
    "<p><strong>Sebep:</strong> {{reason}}</p>",
    "<p>Koltuklarınız serbest bırakıldı.</p>"]

/-- `hold_expired`. -/
def holdExpired : EmailTemplate where
  subject := "Koltuk rezervasyonunuz sona erdi"
  body := lines [
    "Merhaba,",
    "",
    "{{eventTitle}} etkinliği için seçtiğiniz koltuklar için süre doldu. Koltuklar tekrar " ++
      "müsait durumda.",
    "",
    "Rezervasyonunuza devam etmek için yeni bir seçim yapmanız gerekiyor."]
  html := lines [
    "<h2>Rezervasyon süresi doldu</h2>",
    "<p><strong>{{eventTitle}}</strong> etkinliği için koltuk rezervasyonunuzun süresi " ++
      "doldu.</p>",
    "<p>Rezervasyonunuza devam etmek için yeni bir seçim yapmanız gerekiyor.</p>"]

/-- The `Map` after `registerTemplates`. -/
def templates : List (String × EmailTemplate) :=
  [("email_verification", emailVerification), ("password_reset", passwordReset),
    ("booking_refunded", bookingRefunded), ("booking_confirmed", bookingConfirmed),
    ("payment_failed", paymentFailed), ("hold_expired", holdExpired)]

/-- `render` (`template.engine.ts:120–135`). -/
def render (handlebars : Handlebars) (templateId : String) (data : List (String × Value)) :
    Except Exception EmailTemplate :=
  match templates.lookup templateId with
  | none => .error (.failure ("Template " ++ templateId ++ " not found"))
  | some template => do
    let subject ← handlebars template.subject data
    let body ← handlebars template.body data
    let html ← handlebars template.html data
    pure ⟨subject, body, html⟩

/-- A text is filled in whatever the data are. -/
def Fills (handlebars : Handlebars) (text : String) : Prop :=
  ∀ data, ∃ filled, handlebars text data = .ok filled

/-- The texts of the registered templates are filled in whatever the data are. -/
def FillsAll (handlebars : Handlebars) : Prop :=
  ∀ template ∈ templates.map Prod.snd, Fills handlebars template.subject ∧
    Fills handlebars template.body ∧ Fills handlebars template.html

/-- A registered template is rendered if every template is filled in. -/
theorem FillsAll.render {handlebars : Handlebars} (h : FillsAll handlebars) {templateId : String}
    {template : EmailTemplate} (registered : templates.lookup templateId = some template)
    (data : List (String × Value)) :
    ∃ rendered, render handlebars templateId data = .ok rendered := by
  have mem : template ∈ templates.map Prod.snd := by
    obtain ⟨before, after, heq, -⟩ := List.lookup_eq_some_iff.mp registered
    rw [heq]
    simp
  obtain ⟨subject, body, html⟩ := h template mem
  obtain ⟨s, hs⟩ := subject data
  obtain ⟨b, hb⟩ := body data
  obtain ⟨t, ht⟩ := html data
  refine ⟨⟨s, b, t⟩, ?_⟩
  simp only [TemplateEngine.render, registered, hs, hb, ht]
  rfl

end TemplateEngine

end Ticketing.NotificationService
