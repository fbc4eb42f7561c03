/-
The script that runs in the page, apart from its configuration.

It is a program for browsers, kept as text: the lines up to the place of the
configuration and the lines after it.  It decides nothing about a field; it reads
the plans, rules and styles of the configuration and acts on them.
-/

namespace Enrolment.Widget

/-- The lines in front of the configuration; it follows the last of them directly. -/
def openingLines : List String := [
    "(function () \x7b",
    "  var W = "]

/-- The lines behind the configuration, which ends in the first of them. -/
def closingLines : List String := [
    ";",
    "  var D = document;",
    "  var SELF = D.currentScript || D.querySelector('script[src*=\"' + W.scriptName + '\"]');",
    "  var started = false;",
    "",
    "  function onCreateAccountPage() \x7b",
    "    var loc = window.location;",
    "    return new RegExp(W.gate.path, 'i').test(loc.pathname || '') &&",
    "      new RegExp(W.gate.query, 'i').test(loc.search || '');",
    "  \x7d",
    "",
    "  function target() \x7b",
    "    var src = (SELF && SELF.src) || '';",
    "    var base = '';",
    "    var pub = '';",
    "    try \x7b",
    "      var u = new URL(src, window.location.origin);",
    "      base = u.origin;",
    "      pub = u.searchParams.get('pub') || '';",
    "    \x7d catch (_) \x7b",
    "      base = window.location.origin || '';",
    "    \x7d",
    "    return \x7b url: base + W.endpoint + '?pub=' + encodeURIComponent(pub), pub: pub \x7d;",
    "  \x7d",
    "",
    "  function node(tag, css, text) \x7b",
    "    var n = D.createElement(tag);",
    "    if (css) n.style.cssText = css;",
    "    if (text != null) n.textContent = text;",
    "    return n;",
    "  \x7d",
    "",
    "  function addOption(select, value, text) \x7b",
    "    var o = D.createElement('option');",
    "    o.value = value;",
    "    o.textContent = text;",
    "    select.appendChild(o);",
    "  \x7d",
    "",
    "  function regionsOf(code) \x7b",
    "    for (var i = 0; i < W.geography.length; i++) \x7b",
    "      if (W.geography[i].countryShortCode === code) return W.geography[i].regions || [];",
    "    \x7d",
    "    return [];",
    "  \x7d",
    "",
    "  function passes(name, value) \x7b",
    "    var text = String(value == null ? '' : value).trim();",
    "    if (name === 'url') \x7b",
    "      try \x7b new URL(text); return true; \x7d catch (_) \x7b return false; \x7d",
    "    \x7d",
    "    if (name === 'number') return text !== '' && !isNaN(Number(text));",
    "    var rule = W.rules[name];",
    "    if (rule.lowercase) text = text.toLowerCase();",
    "    return new RegExp(rule.pattern).test(text);",
    "  \x7d",
    "",
    "  function isEmpty(v) \x7b",
    "    if (v === false || v == null) return true;",
    "    if (typeof v === 'string') return v.trim() === '';",
    "    if (Object.prototype.toString.call(v) === '[object Array]') return v.length === 0;",
    "    return false;",
    "  \x7d",
    "",
    "  function build() \x7b",
    "    var css = W.css;",
    "    var t = W.theme;",
    "    var items = [];",
    "    var stateItems = [];",
    "    var country = '';",
    "    var phase = 'idle';",
    "",
    "    function dress(el, plan) \x7b",
    "      el.style.cssText = plan.inputCss;",
    "      el.setAttribute('aria-label', plan.label);",
    "      el.name = plan.key;",
    "    \x7d",
    "",
    "    function choices(plan, type) \x7b",
    "      var box = node('div');",
    "      box.setAttribute('role', type === 'radio' ? 'radiogroup' : 'group');",
    "      box.setAttribute('aria-label', plan.label);",
    "      var inputs = [];",
    "      for (var i = 0; i < plan.options.length; i++) \x7b",
    "        var opt = plan.options[i];",
    "        var row = node('label');",
    "        row.className = 'cs-choice';",
    "        var input = D.createElement('input');",
    "        input.type = type;",
    "        input.name = 'cs-field-' + plan.index;",
    "        input.value = opt.value;",
    "        row.appendChild(input);",
    "        row.appendChild(node('span', '', opt.label));",
    "        box.appendChild(row);",
    "        inputs.push(input);",
    "      \x7d",
    "      return \x7b el: box, inputs: inputs \x7d;",
    "    \x7d",
    "",
    "    function mountState(it) \x7b",
    "      var regions = country ? regionsOf(country) : [];",
    "      var locked = !regions.length && !country && !!it.plan.needsCountry;",
    "      var next;",
    "      if (regions.length) \x7b",
    "        next = D.createElement('select');",
    "        addOption(next, '', W.text.statePlaceholder);",
    "        for (var i = 0; i < regions.length; i++) \x7b",
    "          addOption(next, regions[i].shortCode || regions[i].name, regions[i].name);",
    "        \x7d",
    "      \x7d else \x7b",
    "        next = D.createElement('input');",
    "        next.type = 'text';",
    "        next.placeholder = locked ? W.text.stateNeedsCountry : W.text.stateFreeText;",
    "        next.disabled = locked;",
    "      \x7d",
    "      dress(next, it.plan);",
    "      if (it.el && it.el.parentNode) it.el.parentNode.replaceChild(next, it.el);",
    "      it.el = next;",
    "      return next;",
    "    \x7d",
    "",
    "    function control(it) \x7b",
    "      var plan = it.plan;",
    "      var el;",
    "      var i;",
    "      switch (plan.kind) \x7b",
    "        case 'country_select':",
    "          el = D.createElement('select');",
    "          addOption(el, '', W.text.countryPlaceholder);",
    "          for (i = 0; i < W.geography.length; i++) \x7b",
    "            addOption(el, W.geography[i].countryShortCode, W.geography[i].countryName);",
    "          \x7d",
    "          dress(el, plan);",
    "          el.addEventListener('change', function () \x7b",
    "            country = el.value;",
    "            for (var s = 0; s < stateItems.length; s++) mountState(stateItems[s]);",
    "          \x7d);",
    "          it.el = el;",
    "          return el;",
    "        case 'state_control':",
    "          stateItems.push(it);",
    "          return mountState(it);",
    "        case 'textarea':",
    "          el = D.createElement('textarea');",
    "          el.rows = 3;",
    "          el.placeholder = plan.placeholder || '';",
    "          break;",
    "        case 'select':",
    "          el = D.createElement('select');",
    "          addOption(el, '', W.text.optionPlaceholder);",
    "          for (i = 0; i < plan.options.length; i++) \x7b",
    "            addOption(el, plan.options[i].value, plan.options[i].label);",
    "          \x7d",
    "          break;",
    "        case 'radio':",
    "        case 'checkbox_group':",
    "          var group = choices(plan, plan.kind === 'radio' ? 'radio' : 'checkbox');",
    "          it.el = group.el;",
    "          it.choices = group.inputs;",
    "          return group.el;",
    "        case 'checkbox':",
    "          el = D.createElement('input');",
    "          el.type = 'checkbox';",
    "          el.setAttribute('aria-label', plan.label);",
    "          el.name = plan.key;",
    "          it.el = el;",
    "          return el;",
    "        case 'file':",
    "          el = D.createElement('input');",
    "          el.type = 'file';",
    "          break;",
    "        default:",
    "          el = D.createElement('input');",
    "          el.type = plan.inputType;",
    "          el.placeholder = plan.placeholder || '';",
    "      \x7d",
    "      dress(el, plan);",
    "      it.el = el;",
    "      return el;",
    "    \x7d",
    "",
    "    function field(plan) \x7b",
    "      var it = \x7b plan: plan, el: null, choices: null \x7d;",
    "      var g = node('div');",
    "      g.appendChild(node('label', plan.labelCss, plan.labelText));",
    "      g.appendChild(control(it));",
    "      it.err = node('div', css.error);",
    "      it.err.className = 'cs-error';",
    "      g.appendChild(it.err);",
    "      items.push(it);",
    "      return g;",
    "    \x7d",
    "",
    "    function value(it) \x7b",
    "      var i;",
    "      var out;",
    "      switch (it.plan.kind) \x7b",
    "        case 'checkbox':",
    "          return !!it.el.checked;",
    "        case 'checkbox_group':",
    "          out = [];",
    "          for (i = 0; i < it.choices.length; i++) if (it.choices[i].checked) out.push(it.choices[i].value);",
    "          return out;",
    "        case 'radio':",
    "          for (i = 0; i < it.choices.length; i++) if (it.choices[i].checked) return it.choices[i].value;",
    "          return '';",
    "        case 'file':",
    "          return '';",
    "        default:",
    "          return (it.el.value || '').trim();",
    "      \x7d",
    "    \x7d",
    "",
    "    function check(it) \x7b",
    "      var plan = it.plan;",
    "      if (plan.kind === 'file') \x7b",
    "        var picked = it.el.files && it.el.files.length > 0;",
    "        return plan.required && !picked ? W.text.required : '';",
    "      \x7d",
    "      var v = value(it);",
    "      if (isEmpty(v)) return plan.required ? W.text.required : '';",
    "      if (typeof v !== 'string') return '';",
    "      var msg = '';",
    "      if (plan.typeCheck && !passes(plan.typeCheck, v)) msg = W.rules[plan.typeCheck].message;",
    "      if (plan.labelCheck && !passes(plan.labelCheck, v)) msg = W.rules[plan.labelCheck].message;",
    "      return msg;",
    "    \x7d",
    "",
    "    function setError(it, msg) \x7b",
    "      it.err.textContent = msg || '';",
    "      it.err.style.display = msg ? 'block' : 'none';",
    "      if (msg) it.el.classList.add('cs-input-error');",
    "      else it.el.classList.remove('cs-input-error');",
    "    \x7d",
    "",
    "    function validate() \x7b",
    "      var first = null;",
    "      for (var i = 0; i < items.length; i++) \x7b",
    "        var msg = check(items[i]);",
    "        setError(items[i], msg);",
    "        if (msg && !first) first = items[i];",
    "      \x7d",
    "      if (first) \x7b",
    "        try \x7b (first.choices && first.choices.length ? first.choices[0] : first.el).focus(); \x7d catch (_) \x7b\x7d",
    "      \x7d",
    "      return !first;",
    "    \x7d",
    "",
    "    function collect() \x7b",
    "      var data = \x7b\x7d;",
    "      for (var i = 0; i < items.length; i++) \x7b",
    "        if (items[i].plan.kind === 'file') continue;",
    "        data[items[i].plan.key] = value(items[i]);",
    "      \x7d",
    "      return data;",
    "    \x7d",
    "",
    "    function email(data) \x7b",
    "      var i;",
    "      for (i = 0; i < items.length; i++) \x7b",
    "        if (!items[i].plan.isEmail) continue;",
    "        var v = value(items[i]);",
    "        if (typeof v === 'string' && passes('email', v)) return v.toLowerCase();",
    "      \x7d",
    "      for (var k in data) \x7b",
    "        if (!/email/i.test(k)) continue;",
    "        var s = String(data[k] == null ? '' : data[k]).trim();",
    "        if (passes('email', s)) return s.toLowerCase();",
    "      \x7d",
    "      return '';",
    "    \x7d",
    "",
    "    function files() \x7b",
    "      var out = [];",
    "      for (var i = 0; i < items.length; i++) \x7b",
    "        if (items[i].plan.kind !== 'file') continue;",
    "        var list = items[i].el.files || [];",
    "        for (var j = 0; j < list.length; j++) out.push(\x7b part: items[i].plan.filePart, file: list[j] \x7d);",
    "      \x7d",
    "      return out;",
    "    \x7d",
    "",
    "    var page = node('div', css.page);",
    "    if (t.layout === 'split') \x7b",
    "      var aside = node('div', css.aside);",
    "      aside.appendChild(node('div', t.splitImageUrl ? css.overlay : css.orb));",
    "      page.appendChild(aside);",
    "    \x7d",
    "    var root = node('div', css.root);",
    "    root.id = W.containerId;",
    "    var card = node('div', css.card);",
    "    card.appendChild(node('h1', css.title, t.title));",
    "    card.appendChild(node('p', css.subtitle, t.subtitle));",
    "    var form = node('form', css.form);",
    "    form.noValidate = true;",
    "",
    "    for (var gi = 0; gi < W.groups.length; gi++) \x7b",
    "      var group = W.groups[gi];",
    "      var holder = form;",
    "      if (group.paired) \x7b",
    "        holder = node('div');",
    "        holder.className = 'cs-row-group';",
    "        form.appendChild(holder);",
    "      \x7d",
    "      for (var fi = 0; fi < group.fields.length; fi++) holder.appendChild(field(group.fields[fi]));",
    "    \x7d",
    "",
    "    var status = node('div', css.error);",
    "    status.className = 'cs-form-error';",
    "    status.setAttribute('role', 'alert');",
    "    form.appendChild(status);",
    "",
    "    var btn = node('button', css.button, t.buttonText);",
    "    btn.type = 'submit';",
    "    btn.onmousedown = function () \x7b btn.style.transform = 'scale(0.98)'; \x7d;",
    "    btn.onmouseup = function () \x7b btn.style.transform = 'scale(1)'; \x7d;",
    "    if (items.length) form.appendChild(btn);",
    "",
    "    function showStatus(msg) \x7b",
    "      status.textContent = msg || '';",
    "      status.style.display = msg ? 'block' : 'none';",
    "    \x7d",
    "",
    "    form.addEventListener('submit', function (e) \x7b",
    "      e.preventDefault();",
    "      if (phase !== 'idle') return;",
    "      phase = 'validating';",
    "      showStatus('');",
    "      if (!validate()) \x7b",
    "        phase = 'idle';",
    "        return;",
    "      \x7d",
    "      phase = 'submitting';",
    "      var dest = target();",
    "      var data = collect();",
    "      var mail = email(data);",
    "      var attached = files();",
    "      var request;",
    "      if (attached.length) \x7b",
    "        var fd = new FormData();",
    "        fd.append('pub', dest.pub);",
    "        fd.append('email', mail);",
    "        fd.append('data', JSON.stringify(data));",
    "        for (var i = 0; i < attached.length; i++) fd.append(attached[i].part, attached[i].file);",
    "        request = \x7b method: 'POST', body: fd \x7d;",
    "      \x7d else \x7b",
    "        request = \x7b",
    "          method: 'POST',",
    "          headers: \x7b 'Content-Type': 'application/json' \x7d,",
    "          body: JSON.stringify(\x7b data: data, pub: dest.pub, email: mail \x7d)",
    "        \x7d;",
    "      \x7d",
    "      var idleText = btn.textContent;",
    "      btn.disabled = true;",
    "      btn.textContent = W.text.busy;",
    "      fetch(dest.url, request)",
    "        .then(function (res) \x7b",
    "          return res.json().catch(function () \x7b return \x7b\x7d; \x7d).then(function (body) \x7b",
    "            if (!res.ok) throw body || \x7b\x7d;",
    "            return body;",
    "          \x7d);",
    "        \x7d)",
    "        .then(function () \x7b",
    "          phase = 'success';",
    "          var ok = node('div', '', W.text.success);",
    "          ok.className = 'cs-success';",
    "          form.parentNode.replaceChild(ok, form);",
    "          btn.disabled = true;",
    "        \x7d)",
    "        .catch(function (err) \x7b",
    "          phase = 'idle';",
    "          showStatus(err && err.code === 'DUPLICATE' ? W.text.duplicate : W.text.failure);",
    "          btn.textContent = idleText;",
    "          btn.disabled = false;",
    "        \x7d);",
    "    \x7d);",
    "",
    "    card.appendChild(form);",
    "    root.appendChild(card);",
    "    page.appendChild(root);",
    "    return page;",
    "  \x7d",
    "",
    "  function run() \x7b",
    "    if (started) return;",
    "    started = true;",
    "    if (!onCreateAccountPage()) return;",
    "    var html = D.documentElement;",
    "    var loader = null;",
    "    try \x7b",
    "      html.style.visibility = 'hidden';",
    "      var style = D.createElement('style');",
    "      style.textContent = W.baseCss;",
    "      (D.head || html).appendChild(style);",
    "      var body = D.body;",
    "      while (body.firstChild) body.removeChild(body.firstChild);",
    "      body.style.cssText = W.css.body;",
    "      loader = node('div', W.css.loader);",
    "      loader.id = W.containerId + '-loading';",
    "      loader.appendChild(node('div', W.css.spinner));",
    "      body.appendChild(loader);",
    "      body.appendChild(build());",
    "      body.removeChild(loader);",
    "      html.style.visibility = 'visible';",
    "    \x7d catch (e) \x7b",
    "      if (loader && loader.parentNode) loader.parentNode.removeChild(loader);",
    "      html.style.visibility = 'visible';",
    "      if (window.console && console.error) console.error('custom-signup error', e);",
    "    \x7d",
    "  \x7d",
    "",
    "  if (D.readyState === 'loading') D.addEventListener('DOMContentLoaded', run);",
    "  else run();",
    "\x7d)();",
    ""]

/-- The text in front of the configuration. -/
def opening : String :=
  "\n".intercalate openingLines

/-- The text behind the configuration. -/
def closing : String :=
  "\n".intercalate closingLines

end Enrolment.Widget
